import SourceCookie.Node.Operation
import SourceCookie.Proofs.Cache.Contents
import SourceCookie.Proofs.Engine
import SourceCookie.Proofs.Renewal
import SourceCookie.Proofs.Run

/-!
What one operation of a node can do: to its settings, its keys and its table, and to the entry of any
one peer. Invariants of runs are read off these facts.
-/

namespace SourceCookie

theorem Entry.toNat_lifetime_accept (e : Entry) {m : Message} (h : m.lifetimeLog2.toNat < 16)
    (now : Timestamp)
    : (e.accept m now).lifetime.toNat
        =
      if m.lifetimeLog2.toNat = 15 ∧ e.disableCookies = false then 14 else m.lifetimeLog2.toNat := by
  have haccept : (e.accept m now).lifetime = .ofByte (grantedLog2 e.disableCookies m.lifetimeLog2) := rfl
  have hinfinite : Lifetime.infiniteLog2.toNat = 15 := rfl
  rw [haccept, Lifetime.toNat_ofByte]
  unfold grantedLog2
  cases e.disableCookies with
  | true =>
    simp only [Bool.not_true, Bool.false_and, Bool.false_eq_true, ↓reduceIte, reduceCtorEq, and_false]
    omega
  | false =>
    simp only [Bool.not_false, Bool.true_and, decide_eq_true_eq, UInt8.le_iff_toNat_le, hinfinite,
      and_true]
    by_cases hendless : m.lifetimeLog2.toNat = 15
    . simp [hendless]
      rfl
    . have hle : ¬ 15 ≤ m.lifetimeLog2.toNat := by omega
      rw [if_neg hle, if_neg hendless]
      omega

theorem Entry.lifetime_accept_eq_infinite_iff (e : Entry) {m : Message}
    (h : m.lifetimeLog2.toNat < 16) (now : Timestamp)
    : (e.accept m now).lifetime = .infinite
        ↔
      m.lifetimeLog2.toNat = 15 ∧ e.disableCookies = true := by
  rw [Lifetime.eq_infinite_iff, e.toNat_lifetime_accept h]
  cases e.disableCookies with
  | true => simp
  | false =>
    simp only [and_true, Bool.false_eq_true, and_false, iff_false]
    split
    . decide
    . assumption

namespace Node

variable {n : Node}

def next (n : Node) (o : Occasion) : Node := (n.step o).node

theorem run_eq_foldl (n : Node) (os : List Occasion) : n.run os = os.foldl next n := rfl

theorem run_append (n : Node) (os os' : List Occasion) : n.run (os ++ os') = (n.run os).run os' := by
  unfold run
  apply List.foldl_append

theorem run_concat (n : Node) (os : List Occasion) (o : Occasion)
    : n.run (os ++ [o]) = (n.run os).next o := by
  rw [run_append]
  rfl

theorem prepare_of_lookup?_eq_some {peer : Ipv6} {e : Entry} (he : n.cache.lookup? peer = some e)
    (now : Timestamp)
    : (n.prepare peer now).answer
        =
      ⟨(e.evaluate now n.settings.timing).1, (e.evaluate now n.settings.timing).2.outbound⟩ ∧
      (n.prepare peer now).node
        =
      { n with cache := n.cache.modify peer fun _ => (e.evaluate now n.settings.timing).2 } := by
  unfold prepare
  rw [he]
  exact ⟨rfl, rfl⟩

theorem prepare_of_lookup?_eq_none (h : n.cache.WellFormed) {peer : Ipv6}
    (hnone : n.cache.lookup? peer = none) (now : Timestamp)
    : (n.prepare peer now).answer
        =
      ⟨.created (n.policyDisables peer),
        (Entry.fresh peer (n.policyDisables peer) (n.engine.currentCookie peer) now).outbound⟩ ∧
      (n.prepare peer now).node
        =
      { n with cache :=
        (n.cache.insert peer (n.policyDisables peer) (n.engine.currentCookie peer) now).2 } := by
  rw [← h.insert_fst hnone]
  unfold prepare
  rw [hnone]
  exact ⟨rfl, rfl⟩

theorem lookup?_prepare_of_lookup?_eq_some {peer : Ipv6} {e : Entry}
    (he : n.cache.lookup? peer = some e) (now : Timestamp)
    : (n.prepare peer now).node.cache.lookup? peer
        =
      some (e.evaluate now n.settings.timing).2 := by
  rw [(prepare_of_lookup?_eq_some he now).2, Cache.lookup?_modify_self, he]
  rfl

theorem lookup?_prepare_of_lookup?_eq_none (h : n.cache.WellFormed) {peer : Ipv6}
    (hnone : n.cache.lookup? peer = none) (now : Timestamp)
    : (n.prepare peer now).node.cache.lookup? peer
        =
      some (.fresh peer (n.policyDisables peer) (n.engine.currentCookie peer) now) := by
  rw [(prepare_of_lookup?_eq_none h hnone now).2, h.lookup?_insert_self hnone]

theorem lookup?_prepare (h : n.cache.WellFormed) (peer : Ipv6) (now : Timestamp)
    : ∃ e, (n.prepare peer now).node.cache.lookup? peer = some e ∧
        (n.prepare peer now).answer.outbound = e.outbound := by
  cases hlookup : n.cache.lookup? peer with
  | none =>
    refine ⟨_, lookup?_prepare_of_lookup?_eq_none h hlookup now, ?_⟩
    rw [(prepare_of_lookup?_eq_none h hlookup now).1]
  | some e =>
    refine ⟨_, lookup?_prepare_of_lookup?_eq_some hlookup now, ?_⟩
    rw [(prepare_of_lookup?_eq_some hlookup now).1]

theorem handleDatagram_of_echo {source : Ipv6} {e : Entry} {m : Message} {bytes : List UInt8}
    (he : n.cache.lookup? source = some e) (hdecode : Message.decode bytes = .ok m)
    (hcode : m.code = .setCookie) (hecho : e.cookie = m.echoed) (link : Link) (now : Timestamp)
    : (n.handleDatagram link source bytes now).answer = .cookieUpdated ∧
      (n.handleDatagram link source bytes now).node
        =
      { n with cache := n.cache.modify source (·.accept m now) } := by
  unfold handleDatagram handle handleSetCookie
  simp [hdecode, hcode, he, hecho]

theorem lookup?_handleDatagram_of_echo {source : Ipv6} {e : Entry} {m : Message} {bytes : List UInt8}
    (he : n.cache.lookup? source = some e) (hdecode : Message.decode bytes = .ok m)
    (hcode : m.code = .setCookie) (hecho : e.cookie = m.echoed) (link : Link) (now : Timestamp)
    : (n.handleDatagram link source bytes now).node.cache.lookup? source = some (e.accept m now) := by
  rw [(handleDatagram_of_echo he hdecode hcode hecho link now).2, Cache.lookup?_modify_self, he]
  rfl

theorem handleDatagram_cases (n : Node) (link : Link) (source : Ipv6) (bytes : List UInt8)
    (now : Timestamp)
    : (∃ m e, Message.decode bytes = .ok m ∧ m.code = .setCookie ∧
        n.cache.lookup? source = some e ∧ e.cookie = m.echoed ∧
        (n.handleDatagram link source bytes now).answer = .cookieUpdated ∧
        (n.handleDatagram link source bytes now).node
          =
        { n with cache := n.cache.modify source (·.accept m now) }) ∨
      ((n.handleDatagram link source bytes now).answer ≠ .cookieUpdated ∧
        ∃ reports,
          (n.handleDatagram link source bytes now).node = { n with forgedReports := reports }) := by
  unfold handleDatagram
  split
  . next m hdecode =>
    unfold handle
    cases hcode : m.code with
    | notExpected =>
      apply Or.inr
      simp only
      unfold handleNotExpected
      split
      . exact ⟨by simp, n.forgedReports, rfl⟩
      . exact ⟨by simp, n.forgedReports.use.2, rfl⟩
    | setCookie =>
      simp only
      unfold handleSetCookie
      split
      . exact Or.inr ⟨by simp, n.forgedReports, rfl⟩
      . next e he =>
        split
        . exact Or.inr ⟨by simp, n.forgedReports, rfl⟩
        . next hecho =>
          exact Or.inl ⟨m, e, hdecode, hcode, he, Decidable.not_not.1 hecho, rfl, rfl⟩
  . exact Or.inr ⟨by simp, n.forgedReports, rfl⟩

theorem prepare_eq_update (n : Node) (peer : Ipv6) (now : Timestamp)
    : ∃ cache, (n.prepare peer now).node = { n with cache } := by
  unfold prepare
  split
  . exact ⟨_, rfl⟩
  . exact ⟨_, rfl⟩

theorem handleDatagram_eq_update (n : Node) (link : Link) (source : Ipv6) (bytes : List UInt8)
    (now : Timestamp)
    : ∃ cache forgedReports,
        (n.handleDatagram link source bytes now).node = { n with cache, forgedReports } := by
  rcases n.handleDatagram_cases link source bytes now with
    ⟨m, e, _, _, _, _, _, hnode⟩ | ⟨_, reports, hnode⟩
  . exact ⟨_, n.forgedReports, hnode⟩
  . exact ⟨n.cache, reports, hnode⟩

theorem inspect_up_cases (n : Node) (source : Ipv6) (cookie : Cookie)
    : n.engine.currentCookie source = cookie ∧
        (n.inspect .up source (some cookie)).1 = .accept ∧
        Effect.sent (n.inspect .up source (some cookie)).2 = [] ∨
      n.engine.currentCookie source ≠ cookie ∧
        ((n.inspect .up source (some cookie)).1 = .reject →
          n.engine.check cookie source = .invalid) ∧
        Effect.sent (n.inspect .up source (some cookie)).2 = [(source, n.offer source cookie)] := by
  unfold inspect Engine.check Engine.currentCookie
  by_cases hcurrent : Cookie.compute n.engine.current source = cookie
  . simp [hcurrent, Effect.sent]
  . by_cases hprevious : Cookie.compute n.engine.previous source = cookie
    . simp [hcurrent, hprevious, Effect.sent, sendOffer, Link.transmit]
    . simp [hcurrent, hprevious, Effect.sent, sendOffer, Link.transmit]

theorem check_eq_invalid_of_reject {source : Ipv6} {cookie : Cookie}
    (hreject : (n.inspect .up source (some cookie)).1 = .reject)
    : n.engine.check cookie source = .invalid := by
  rcases n.inspect_up_cases source cookie with ⟨_, haccept, _⟩ | ⟨_, hinvalid, _⟩
  . simp [haccept] at hreject
  . exact hinvalid hreject

theorem mem_sent_inspect {link : Link} {source peer : Ipv6} {shown : Option Cookie} {m : Message}
    (hmem : (peer, m) ∈ Effect.sent (n.inspect link source shown).2)
    : peer = source ∧ ∃ cookie, shown = some cookie ∧ n.engine.currentCookie source ≠ cookie ∧
        m = n.offer source cookie := by
  cases shown with
  | none => simp [inspect, Effect.sent] at hmem
  | some cookie =>
    cases link with
    | up =>
      rcases n.inspect_up_cases source cookie with ⟨_, _, hsent⟩ | ⟨hcurrent, _, hsent⟩
      . simp [hsent] at hmem
      . simp only [hsent, List.mem_singleton, Prod.mk.injEq] at hmem
        exact ⟨hmem.1, cookie, rfl, hcurrent, hmem.2⟩
    | down reason =>
      unfold inspect at hmem
      simp only at hmem
      split at hmem <;> simp [Effect.sent, sendOffer, Link.transmit] at hmem

theorem engine_step (n : Node) (o : Occasion)
    : (n.step o).node.engine
        =
      match o.operation with
      | .rotate drawn => n.engine.rotate drawn
      | _ => n.engine := by
  obtain ⟨now, link, operation⟩ := o
  cases operation with
  | prepare peer =>
    obtain ⟨cache, hnode⟩ := n.prepare_eq_update peer now
    simp [step, hnode]
  | inspect source cookie => rfl
  | handleDatagram source bytes =>
    obtain ⟨cache, reports, hnode⟩ := n.handleDatagram_eq_update link source bytes now
    simp [step, hnode]
  | rotate drawn => rfl
  | elapse nanoseconds => rfl

theorem rotated_next (n : Node) (o : Occasion) : n.engine.Rotated (n.next o).engine := by
  unfold next
  rw [engine_step]
  split
  . exact .rotate .refl _
  . exact .refl

theorem rotated_run (n : Node) (os : List Occasion) : n.engine.Rotated (n.run os).engine := by
  rw [run_eq_foldl]
  apply foldl_preserves fun m : Node => n.engine.Rotated m.engine
  . intro m o h
    exact h.trans (m.rotated_next o)
  . exact .refl

theorem step_eq_update (n : Node) (o : Occasion)
    : ∃ engine cache forgedReports,
        (n.step o).node = { n with engine, cache, forgedReports } := by
  obtain ⟨now, link, operation⟩ := o
  cases operation with
  | prepare peer =>
    obtain ⟨cache, hnode⟩ := n.prepare_eq_update peer now
    exact ⟨n.engine, cache, n.forgedReports, hnode⟩
  | inspect source cookie => exact ⟨n.engine, n.cache, n.forgedReports, rfl⟩
  | handleDatagram source bytes =>
    obtain ⟨cache, reports, hnode⟩ := n.handleDatagram_eq_update link source bytes now
    exact ⟨n.engine, cache, reports, hnode⟩
  | rotate drawn => exact ⟨n.engine.rotate drawn, n.cache, n.forgedReports, rfl⟩
  | elapse nanoseconds => exact ⟨n.engine, n.cache, _, rfl⟩

theorem id_next (n : Node) (o : Occasion) : (n.next o).id = n.id := by
  obtain ⟨_, _, _, hnode⟩ := n.step_eq_update o
  unfold next
  rw [hnode]

theorem settings_step (n : Node) (o : Occasion) : (n.step o).node.settings = n.settings := by
  obtain ⟨_, _, _, hnode⟩ := n.step_eq_update o
  rw [hnode]

theorem settings_run (n : Node) (os : List Occasion) : (n.run os).settings = n.settings := by
  rw [run_eq_foldl]
  apply foldl_preserves fun m : Node => m.settings = n.settings
  . intro m o h
    exact (m.settings_step o).trans h
  . rfl

theorem policyDisables_run (n : Node) (os : List Occasion) (peer : Ipv6)
    : (n.run os).policyDisables peer = n.policyDisables peer := by
  unfold policyDisables
  rw [settings_run]

theorem wellFormed_prepare (h : n.cache.WellFormed) (peer : Ipv6) (now : Timestamp)
    : (n.prepare peer now).node.cache.WellFormed := by
  cases hlookup : n.cache.lookup? peer with
  | none =>
    rw [(prepare_of_lookup?_eq_none h hlookup now).2]
    exact h.insert
  | some e =>
    rw [(prepare_of_lookup?_eq_some hlookup now).2]
    apply h.modify
    intro _ _
    rw [(e.evaluation now n.settings.timing).peer_eq]
    exact (h.lookup?_eq_some_iff.1 hlookup).2

theorem wellFormed_handleDatagram (h : n.cache.WellFormed) (link : Link) (source : Ipv6)
    (bytes : List UInt8) (now : Timestamp)
    : (n.handleDatagram link source bytes now).node.cache.WellFormed := by
  rcases n.handleDatagram_cases link source bytes now with
    ⟨m, e, _, _, _, _, _, hnode⟩ | ⟨_, reports, hnode⟩
  . rw [hnode]
    apply h.modify
    intro e he
    exact he
  . rw [hnode]
    exact h

theorem wellFormed_step (h : n.cache.WellFormed) (o : Occasion)
    : (n.step o).node.cache.WellFormed := by
  unfold step
  split
  . apply wellFormed_prepare h
  . exact h
  . apply wellFormed_handleDatagram h
  . exact h
  . exact h

theorem wellFormed_run (h : n.cache.WellFormed) (os : List Occasion)
    : (n.run os).cache.WellFormed := by
  rw [run_eq_foldl]
  apply foldl_preserves fun m : Node => m.cache.WellFormed
  . intro m o hm
    exact wellFormed_step hm o
  . exact h

theorem capacity_next (h : n.cache.WellFormed) (o : Occasion)
    : (n.next o).cache.capacity = n.cache.capacity := by
  obtain ⟨now, link, operation⟩ := o
  unfold next
  cases operation with
  | prepare other =>
    simp only [step]
    cases hlookup : n.cache.lookup? other with
    | none =>
      rw [(prepare_of_lookup?_eq_none h hlookup now).2]
      exact h.size_slots_insert
    | some e =>
      rw [(prepare_of_lookup?_eq_some hlookup now).2]
      apply Cache.size_slots_modify
  | inspect source shown => rfl
  | handleDatagram source bytes =>
    simp only [step]
    rcases n.handleDatagram_cases link source bytes now with
      ⟨_, _, _, _, _, _, _, hnode⟩ | ⟨_, _, hnode⟩
    . rw [hnode]
      apply Cache.size_slots_modify
    . rw [hnode]
  | rotate drawn => rfl
  | elapse nanoseconds => rfl

theorem create?_eq (id : Uuid) (c : Config) (engine : Engine)
    : create? id c engine
        =
      if Cache.slotBytes * max c.cache.capacity.toNat 1 ≤ Cache.allocationLimit then
        some (create id c engine)
      else none := by
  unfold create? Cache.create? create
  split <;> rfl

theorem capacity_create (id : Uuid) (c : Config) (engine : Engine)
    : (create id c engine).cache.capacity = max c.cache.capacity.toNat 1 :=
  Array.size_replicate

@[simp]
theorem lookup?_create (id : Uuid) (c : Config) (engine : Engine) (peer : Ipv6)
    : (create id c engine).cache.lookup? peer = none := rfl

theorem wellFormed_create (id : Uuid) (c : Config) (engine : Engine)
    : (create id c engine).cache.WellFormed := by
  apply Cache.wellFormed_empty

def SendsCookie (n : Node) (peer : Ipv6) (o : Occasion) : Prop :=
  o.operation = .prepare peer ∧
    ∃ t cookie, (n.step o).answer = .decision ⟨t, .withCookie cookie⟩

def KeepsEntry (n : Node) (peer : Ipv6) (o : Occasion) : Prop :=
  ((n.next o).cache.lookup? peer).isSome

def TakesCookie (n : Node) (peer : Ipv6) (o : Occasion) : Prop :=
  (∃ bytes, o.operation = .handleDatagram peer bytes) ∧
    (n.step o).answer = .outcome .cookieUpdated

def KeepsCookie (n : Node) (peer : Ipv6) (o : Occasion) : Prop :=
  n.KeepsEntry peer o ∧ ¬ n.TakesCookie peer o

theorem answer_step_prepare {peer : Ipv6} {o : Occasion} (asked : o.operation = .prepare peer)
    : (n.step o).answer = .decision (n.prepare peer o.now).answer := by
  unfold step
  rw [asked]

theorem next_of_prepare {peer : Ipv6} {o : Occasion} (asked : o.operation = .prepare peer)
    : n.next o = (n.prepare peer o.now).node := by
  unfold next step
  rw [asked]

theorem keepsEntry_of_prepare (h : n.cache.WellFormed) {peer : Ipv6} {o : Occasion}
    (asked : o.operation = .prepare peer)
    : n.KeepsEntry peer o := by
  obtain ⟨e, he, _⟩ := lookup?_prepare h peer o.now
  unfold KeepsEntry
  rw [next_of_prepare asked, he]
  rfl

theorem outbound_of_answered {peer : Ipv6} {o : Occasion} {t : Transition} {outbound : Outbound}
    (asked : o.operation = .prepare peer) (answered : (n.step o).answer = .decision ⟨t, outbound⟩)
    : (n.prepare peer o.now).answer.outbound = outbound := by
  rw [answer_step_prepare asked] at answered
  injection answered with hdecision
  rw [hdecision]

theorem not_takesCookie_of_prepare {peer : Ipv6} {o : Occasion} (asked : o.operation = .prepare peer)
    (other : Ipv6)
    : ¬ n.TakesCookie other o := by
  rintro ⟨⟨bytes, received⟩, _⟩
  rw [asked] at received
  simp at received

inductive EntryStep (n : Node) (peer : Ipv6) (o : Occasion) : Option Entry → Option Entry → Prop where
  | created (asked : o.operation = .prepare peer)
    (answered : (n.step o).answer
      =
      .decision ⟨.created (n.policyDisables peer),
        (Entry.fresh peer (n.policyDisables peer) (n.engine.currentCookie peer) o.now).outbound⟩)
    : EntryStep n peer o none
        (some (.fresh peer (n.policyDisables peer) (n.engine.currentCookie peer) o.now))
  | evaluated {e e' : Entry} {t : Transition} (asked : o.operation = .prepare peer)
    (evaluation : e.Evaluation o.now n.settings.timing t e')
    (answered : (n.step o).answer = .decision ⟨t, e'.outbound⟩)
    : EntryStep n peer o (some e) (some e')
  | updated {e : Entry} {m : Message} {bytes : List UInt8}
    (received : o.operation = .handleDatagram peer bytes) (decoded : Message.decode bytes = .ok m)
    (code : m.code = .setCookie) (echo : e.cookie = m.echoed) (takes : n.TakesCookie peer o)
    : EntryStep n peer o (some e) (some (e.accept m o.now))
  | evicted {e : Entry} {other : Ipv6} (asked : o.operation = .prepare other) (ne : other ≠ peer)
    : EntryStep n peer o (some e) none
  | kept (x : Option Entry) (notAsked : o.operation ≠ .prepare peer)
    (takesNone : ¬ n.TakesCookie peer o)
    : EntryStep n peer o x x

theorem entryStep_prepare_self (h : n.cache.WellFormed) (peer : Ipv6) (now : Timestamp) (link : Link)
    : n.EntryStep peer ⟨now, link, .prepare peer⟩ (n.cache.lookup? peer)
        ((n.step ⟨now, link, .prepare peer⟩).node.cache.lookup? peer) := by
  simp only [step]
  cases hlookup : n.cache.lookup? peer with
  | none =>
    rw [lookup?_prepare_of_lookup?_eq_none h hlookup]
    exact .created rfl (by simp [step, (prepare_of_lookup?_eq_none h hlookup now).1])
  | some e =>
    rw [lookup?_prepare_of_lookup?_eq_some hlookup]
    exact .evaluated rfl (e.evaluation now n.settings.timing)
      (by simp [step, (prepare_of_lookup?_eq_some hlookup now).1])

theorem entryStep_prepare_of_ne (h : n.cache.WellFormed) {peer other : Ipv6} (hne : other ≠ peer)
    (now : Timestamp) (link : Link)
    : n.EntryStep peer ⟨now, link, .prepare other⟩ (n.cache.lookup? peer)
        ((n.step ⟨now, link, .prepare other⟩).node.cache.lookup? peer) := by
  -- another peer's datagram changes this entry only by taking its slot
  have hkept : ∀ x, n.EntryStep peer ⟨now, link, .prepare other⟩ x x := by
    intro x
    apply EntryStep.kept
    . simpa using hne
    . simp [TakesCookie]
  simp only [step]
  cases hlookup : n.cache.lookup? other with
  | none =>
    rw [(prepare_of_lookup?_eq_none h hlookup now).2]
    rcases h.lookup?_insert_of_ne hlookup hne.symm with hsame | hgone
    . rw [hsame]
      apply hkept
    . rw [hgone]
      cases n.cache.lookup? peer with
      | none => apply hkept
      | some e => exact .evicted rfl hne
  | some e =>
    rw [(prepare_of_lookup?_eq_some hlookup now).2, h.lookup?_modify_of_ne hne.symm]
    apply hkept

theorem entryStep_handleDatagram (h : n.cache.WellFormed) (peer source : Ipv6) (bytes : List UInt8)
    (now : Timestamp) (link : Link)
    : n.EntryStep peer ⟨now, link, .handleDatagram source bytes⟩ (n.cache.lookup? peer)
        ((n.step ⟨now, link, .handleDatagram source bytes⟩).node.cache.lookup? peer) := by
  simp only [step]
  rcases n.handleDatagram_cases link source bytes now with
    ⟨m, e, hdecode, hcode, he, hecho, hanswer, hnode⟩ | ⟨hanswer, reports, hnode⟩
  . rw [hnode]
    by_cases hsource : source = peer
    . subst hsource
      rw [Cache.lookup?_modify_self, he]
      exact .updated rfl hdecode hcode hecho ⟨⟨bytes, rfl⟩, by simp [step, hanswer]⟩
    . rw [h.lookup?_modify_of_ne (Ne.symm hsource)]
      exact .kept _ (by simp) (by simp [TakesCookie, hsource])
  . rw [hnode]
    exact .kept _ (by simp) (by simp [TakesCookie, step, hanswer])

theorem entryStep (h : n.cache.WellFormed) (peer : Ipv6) (o : Occasion)
    : n.EntryStep peer o (n.cache.lookup? peer) ((n.next o).cache.lookup? peer) := by
  obtain ⟨now, link, operation⟩ := o
  cases operation with
  | prepare other =>
    by_cases hother : other = peer
    . subst hother
      apply entryStep_prepare_self h
    . apply entryStep_prepare_of_ne h hother
  | inspect source cookie => exact .kept _ (by simp) (by simp [TakesCookie])
  | handleDatagram source bytes => apply entryStep_handleDatagram h
  | rotate drawn => exact .kept _ (by simp) (by simp [TakesCookie])
  | elapse nanoseconds => exact .kept _ (by simp) (by simp [TakesCookie])

end Node

end SourceCookie

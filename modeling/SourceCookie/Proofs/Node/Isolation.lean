import Mathlib.Data.List.Dedup
import Mathlib.Data.List.Perm.Subperm
import SourceCookie.Proofs.Host

/-!
What the peers of a node have to do with each other. All of them share the keys, and a new entry may take
the place of an old one. Where the table has room for all peers that datagrams are prepared for, that is
never so, and each peer has the node for itself: whatever is done with the others could be left out.
-/

namespace SourceCookie

def Occasion.concerns (o : Occasion) (peer : Ipv6) : Bool :=
  match o.operation with
  | .prepare other => other = peer
  | .inspect source _ => source = peer
  | .handleDatagram source _ => source = peer
  | .rotate _ => true
  | .elapse _ => true

def Occasion.prepared? (o : Occasion) : Option Ipv6 :=
  match o.operation with
  | .prepare peer => some peer
  | _ => none

def Finding.peer : Finding → Ipv6
  | spoofDetected peer _ => peer

def Entry.receive (e : Entry) (bytes : List UInt8) (now : Timestamp) : Entry :=
  match Message.decode bytes with
  | .ok m => if m.code = .setCookie ∧ e.cookie = m.echoed then e.accept m now else e
  | .error _ => e

open Effect

namespace Node

structure View where
  id : Uuid
  settings : Settings
  engine : Engine
  entry : Option Entry

def view (n : Node) (peer : Ipv6) : View := ⟨n.id, n.settings, n.engine, n.cache.lookup? peer⟩

def answersTo (n : Node) (peer : Ipv6) (os : List Occasion) : List Answer :=
  ((os.zip (n.trace os)).filter (·.1.concerns peer)).map (·.2.answer)

/-- Two runs are the same to a peer: it has the same answers and the same messages, the same is found out
about it, and it is left with the same entry. -/
structure LooksAlike (peer : Ipv6) (n : Node) (os : List Occasion) (n' : Node) (os' : List Occasion)
    : Prop where
  answers : n.answersTo peer os = n'.answersTo peer os'
  messages : (n.messages os).filter (·.1 = peer) = (n'.messages os').filter (·.1 = peer)
  published : (n.published os).filter (·.2.peer = peer) = (n'.published os').filter (·.2.peer = peer)
  entry : (n.run os).cache.lookup? peer = (n'.run os').cache.lookup? peer

variable {n n' : Node} {peer : Ipv6} {o : Occasion} {os : List Occasion} {peers : List Ipv6}

structure Within (n : Node) (peers : List Ipv6) : Prop where
  wellFormed : n.cache.WellFormed
  mem : ∀ peer, (n.cache.lookup? peer).isSome → peer ∈ peers
  length_le : peers.length ≤ n.cache.capacity

namespace Within

theorem length_toList_lt (h : n.Within peers) (hmem : peer ∈ peers)
    (hnone : n.cache.lookup? peer = none)
    : n.cache.toList.length < n.cache.capacity := by
  have habsent : peer ∉ n.cache.toList.map Entry.peer := by
    intro hmem
    obtain ⟨e, he, hpeer⟩ := List.mem_map.1 hmem
    exact h.wellFormed.lookup?_eq_none_iff.1 hnone e he hpeer
  -- the peers of the entries and `peer` all differ, and all of them are among `peers`
  have hnodup : (peer :: n.cache.toList.map Entry.peer).Nodup :=
    List.nodup_cons.2 ⟨habsent, h.wellFormed.nodup_peers⟩
  have hsubset : peer :: n.cache.toList.map Entry.peer ⊆ peers := by
    intro other hother
    rcases List.mem_cons.1 hother with heq | hlisted
    . rw [heq]
      exact hmem
    . obtain ⟨e, he, hpeer⟩ := List.mem_map.1 hlisted
      apply h.mem
      rw [h.wellFormed.lookup?_eq_some_iff.2 ⟨he, hpeer⟩]
      rfl
  have hlength := (List.subperm_of_subset hnodup hsubset).length_le
  simp only [List.length_cons, List.length_map] at hlength
  exact Nat.lt_of_lt_of_le hlength h.length_le

theorem next (h : n.Within peers) (hprepared : ∀ other, o.prepared? = some other → other ∈ peers)
    : (n.next o).Within peers where
  wellFormed := wellFormed_step h.wellFormed o
  length_le := by
    rw [capacity_next h.wellFormed]
    exact h.length_le
  mem := by
    intro other hsome
    have hstep := entryStep h.wellFormed other o
    generalize hbefore : n.cache.lookup? other = before at hstep
    generalize (n.next o).cache.lookup? other = after at hstep hsome
    cases hstep with
    | created asked => exact hprepared other (by simp [Occasion.prepared?, asked])
    | evaluated => exact h.mem other (by simp [hbefore])
    | updated => exact h.mem other (by simp [hbefore])
    | evicted => simp at hsome
    | kept => exact h.mem other (by rw [hbefore]; exact hsome)

end Within

theorem Within.view_next (h : n.Within peers)
    (hprepared : ∀ other, o.prepared? = some other → other ∈ peers) (hother : o.concerns peer = false)
    : (n.next o).view peer = n.view peer := by
  obtain ⟨now, link, operation⟩ := o
  unfold Node.next
  cases operation with
  | prepare other =>
    have hne : peer ≠ other := by simpa [Occasion.concerns, eq_comm] using hother
    simp only [step]
    cases hlookup : n.cache.lookup? other with
    | none =>
      have hroom := h.length_toList_lt (hprepared other rfl) hlookup
      rw [(prepare_of_lookup?_eq_none h.wellFormed hlookup now).2]
      simp only [view, h.wellFormed.lookup?_insert_of_room hlookup hroom hne]
    | some e =>
      rw [(prepare_of_lookup?_eq_some hlookup now).2]
      simp only [view, h.wellFormed.lookup?_modify_of_ne hne]
  | inspect source shown => rfl
  | handleDatagram source bytes =>
    have hne : peer ≠ source := by simpa [Occasion.concerns, eq_comm] using hother
    simp only [step]
    rcases n.handleDatagram_cases link source bytes now with
      ⟨_, _, _, _, _, _, _, hnode⟩ | ⟨_, _, hnode⟩
    . rw [hnode]
      simp only [view, h.wellFormed.lookup?_modify_of_ne hne]
    . rw [hnode]
      rfl
  | rotate drawn => simp [Occasion.concerns] at hother
  | elapse nanoseconds => simp [Occasion.concerns] at hother

theorem filter_sent_step (hother : o.concerns peer = false)
    : (sent (n.step o).effects).filter (·.1 = peer) = [] := by
  rw [List.filter_eq_nil_iff]
  rintro ⟨destination, m⟩ hmem
  simp only [decide_eq_true_eq]
  rintro rfl
  rcases mem_sent_step hmem with ⟨_, hinspect, _⟩ | ⟨_, _, hreceived, _⟩
  . simp [Occasion.concerns, hinspect] at hother
  . simp [Occasion.concerns, hreceived] at hother

theorem filter_findings_step (hother : o.concerns peer = false)
    : (findings (n.step o).effects).filter (·.2.peer = peer) = [] := by
  rw [List.filter_eq_nil_iff]
  rintro ⟨id, finding⟩ hmem
  obtain ⟨source, _, _, hreceived, _, _, _, _, hfinding⟩ := mem_findings_step_iff.1 hmem
  simp only [decide_eq_true_eq]
  rintro rfl
  simp [Occasion.concerns, hreceived, hfinding, Finding.peer] at hother

theorem lookup?_handleDatagram (n : Node) (link : Link) (source : Ipv6) (bytes : List UInt8)
    (now : Timestamp)
    : (n.handleDatagram link source bytes now).node.cache.lookup? source
        =
      (n.cache.lookup? source).map (·.receive bytes now) := by
  unfold Entry.receive
  cases hdecode : Message.decode bytes with
  | error => simp [handleDatagram, hdecode]
  | ok m =>
    by_cases htaken : m.code = .setCookie ∧ ∃ e, n.cache.lookup? source = some e ∧ e.cookie = m.echoed
    . obtain ⟨hcode, e, he, hecho⟩ := htaken
      rw [lookup?_handleDatagram_of_echo he hdecode hcode hecho]
      simp [he, hcode, hecho]
    . rcases n.handleDatagram_cases link source bytes now with
        ⟨m', e, hdecode', hcode, he, hecho, _, _⟩ | ⟨_, _, hnode⟩
      . rw [hdecode] at hdecode'
        injection hdecode' with hm
        subst hm
        exact absurd ⟨hcode, e, he, hecho⟩ htaken
      . rw [hnode]
        cases he : n.cache.lookup? source with
        | none => rfl
        | some e =>
          have hleft : ¬ (m.code = .setCookie ∧ e.cookie = m.echoed) :=
            fun h => htaken ⟨h.1, e, he, h.2⟩
          simp [hleft]

section Determined

variable (hview : n.view peer = n'.view peer)
include hview

theorem id_eq_of_view_eq : n.id = n'.id := congrArg View.id hview

theorem settings_eq_of_view_eq : n.settings = n'.settings := congrArg View.settings hview

theorem engine_eq_of_view_eq : n.engine = n'.engine := congrArg View.engine hview

theorem lookup?_eq_of_view_eq : n.cache.lookup? peer = n'.cache.lookup? peer := congrArg View.entry hview

theorem prepare_of_view_eq (hwell : n.cache.WellFormed) (hwell' : n'.cache.WellFormed) (now : Timestamp)
    : (n.prepare peer now).answer = (n'.prepare peer now).answer ∧
      (n.prepare peer now).node.cache.lookup? peer = (n'.prepare peer now).node.cache.lookup? peer := by
  have hsettings := settings_eq_of_view_eq hview
  have hengine := engine_eq_of_view_eq hview
  cases hlookup' : n'.cache.lookup? peer with
  | none =>
    have hlookup : n.cache.lookup? peer = none := (lookup?_eq_of_view_eq hview).trans hlookup'
    rw [(prepare_of_lookup?_eq_none hwell hlookup now).1,
      (prepare_of_lookup?_eq_none hwell' hlookup' now).1,
      lookup?_prepare_of_lookup?_eq_none hwell hlookup,
      lookup?_prepare_of_lookup?_eq_none hwell' hlookup']
    unfold policyDisables
    rw [hsettings, hengine]
    exact ⟨rfl, rfl⟩
  | some e =>
    have hlookup : n.cache.lookup? peer = some e := (lookup?_eq_of_view_eq hview).trans hlookup'
    rw [(prepare_of_lookup?_eq_some hlookup now).1, (prepare_of_lookup?_eq_some hlookup' now).1,
      lookup?_prepare_of_lookup?_eq_some hlookup, lookup?_prepare_of_lookup?_eq_some hlookup', hsettings]
    exact ⟨rfl, rfl⟩

theorem inspect_of_view_eq (link : Link) (shown : Option Cookie)
    : n.inspect link peer shown = n'.inspect link peer shown := by
  unfold inspect sendOffer offer
  rw [settings_eq_of_view_eq hview, engine_eq_of_view_eq hview]

theorem answer_handleDatagram_of_view_eq (link : Link) (bytes : List UInt8) (now : Timestamp)
    : (n.handleDatagram link peer bytes now).answer = (n'.handleDatagram link peer bytes now).answer := by
  unfold handleDatagram
  cases Message.decode bytes with
  | error => rfl
  | ok m =>
    simp only [handle]
    cases m.code with
    | setCookie =>
      simp only [handleSetCookie, lookup?_eq_of_view_eq hview]
      cases n'.cache.lookup? peer with
      | none => rfl
      | some e =>
        simp only
        split <;> rfl
    | notExpected =>
      simp only [handleNotExpected, engine_eq_of_view_eq hview]
      split <;> rfl

theorem step_of_view_eq (hwell : n.cache.WellFormed) (hwell' : n'.cache.WellFormed)
    (hconcerns : o.concerns peer = true)
    : (n.step o).answer = (n'.step o).answer ∧ (n.next o).view peer = (n'.next o).view peer := by
  have hid := id_eq_of_view_eq hview
  have hsettings := settings_eq_of_view_eq hview
  have hengine := engine_eq_of_view_eq hview
  have hentry : (n.step o).answer = (n'.step o).answer ∧
      (n.next o).cache.lookup? peer = (n'.next o).cache.lookup? peer := by
    obtain ⟨now, link, operation⟩ := o
    unfold next step
    cases operation with
    | prepare other =>
      have hpeer : other = peer := by simpa [Occasion.concerns] using hconcerns
      subst hpeer
      obtain ⟨hanswer, hlookup⟩ := prepare_of_view_eq hview hwell hwell' now
      exact ⟨congrArg Answer.decision hanswer, hlookup⟩
    | inspect source shown =>
      have hpeer : source = peer := by simpa [Occasion.concerns] using hconcerns
      subst hpeer
      simp only [inspect_of_view_eq hview, lookup?_eq_of_view_eq hview, and_self]
    | handleDatagram source bytes =>
      have hpeer : source = peer := by simpa [Occasion.concerns] using hconcerns
      subst hpeer
      simp only [lookup?_handleDatagram, lookup?_eq_of_view_eq hview, and_true]
      exact congrArg Answer.outcome (answer_handleDatagram_of_view_eq hview link bytes now)
    | rotate drawn =>
      simp only [rotate, hengine, lookup?_eq_of_view_eq hview, and_self]
    | elapse nanoseconds => exact ⟨rfl, lookup?_eq_of_view_eq hview⟩
  refine ⟨hentry.1, ?_⟩
  have hkeys := n.engine_step o
  have hkeys' := n'.engine_step o
  unfold view
  rw [id_next, id_next, hid, hentry.2]
  unfold next at *
  rw [settings_step, settings_step, hsettings, hkeys, hkeys', hengine]

theorem findings_step_of_view_eq (o : Occasion)
    : findings (n.step o).effects = findings (n'.step o).effects := by
  rw [findings_step, findings_step, engine_eq_of_view_eq hview]
  unfold report
  rw [id_eq_of_view_eq hview]

theorem sent_step_of_view_eq (hconcerns : o.concerns peer = true)
    : sent (n.step o).effects = sent (n'.step o).effects := by
  have hreply : n.reply? o = n'.reply? o := by
    obtain ⟨now, link, operation⟩ := o
    cases operation with
    | prepare other => rfl
    | inspect source shown =>
      cases shown with
      | none => rfl
      | some cookie =>
        simp only [reply?, offer, settings_eq_of_view_eq hview, engine_eq_of_view_eq hview]
    | handleDatagram source bytes =>
      have hpeer : source = peer := by simpa [Occasion.concerns] using hconcerns
      subst hpeer
      simp only [reply?, lookup?_eq_of_view_eq hview]
    | rotate drawn => rfl
    | elapse nanoseconds => rfl
  rw [sent_step, sent_step, hreply]

end Determined

theorem answersTo_cons (n : Node) (peer : Ipv6) (o : Occasion) (os : List Occasion)
    : n.answersTo peer (o :: os)
        =
      (if o.concerns peer then [(n.step o).answer] else []) ++ (n.next o).answersTo peer os := by
  unfold answersTo
  rw [trace_cons, List.zip_cons_cons, List.filter_cons]
  split <;> rfl

theorem looksAlike_filter_of_view_eq (h : n.Within peers) (hwell' : n'.cache.WellFormed)
    (hview : n.view peer = n'.view peer)
    (hprepared : ∀ o ∈ os, ∀ other, o.prepared? = some other → other ∈ peers)
    : LooksAlike peer n os n' (os.filter (·.concerns peer)) := by
  -- what concerns others leaves the view alone, so the second node need not take that step
  induction os generalizing n n' with
  | nil => exact ⟨rfl, rfl, rfl, lookup?_eq_of_view_eq hview⟩
  | cons o os ih =>
    have hfirst := hprepared o List.mem_cons_self
    have hrest := fun o' ho' => hprepared o' (List.mem_cons_of_mem o ho')
    cases hconcerns : o.concerns peer with
    | true =>
      obtain ⟨hanswer, hnext⟩ := step_of_view_eq hview h.wellFormed hwell' hconcerns
      have hwell'' : (n'.next o).cache.WellFormed := wellFormed_step hwell' o
      have hlater := ih (h.next hfirst) hwell'' hnext hrest
      rw [List.filter_cons, if_pos hconcerns]
      exact {
        answers := by
          rw [answersTo_cons, answersTo_cons, hanswer, hlater.answers]
        messages := by
          rw [messages_cons, messages_cons, List.filter_append, List.filter_append,
            sent_step_of_view_eq hview hconcerns, hlater.messages]
        published := by
          rw [published_cons, published_cons, List.filter_append, List.filter_append,
            findings_step_of_view_eq hview, hlater.published]
        entry := hlater.entry
      }
    | false =>
      have hnext := (h.view_next hfirst hconcerns).trans hview
      have hlater := ih (h.next hfirst) hwell' hnext hrest
      rw [List.filter_cons, if_neg (by simp [hconcerns])]
      exact {
        answers := by
          rw [answersTo_cons, hconcerns, hlater.answers]
          rfl
        messages := by
          rw [messages_cons, List.filter_append, filter_sent_step hconcerns, hlater.messages]
          rfl
        published := by
          rw [published_cons, List.filter_append, filter_findings_step hconcerns, hlater.published]
          rfl
        entry := hlater.entry
      }

theorem looksAlike_filter_concerns {capacity : Nat} (hempty : n.cache = .empty capacity)
    (hroom : (os.filterMap Occasion.prepared?).dedup.length ≤ n.cache.capacity) (peer : Ipv6)
    : LooksAlike peer n os n (os.filter (·.concerns peer)) := by
  have hwell : n.cache.WellFormed := by
    rw [hempty]
    exact Cache.wellFormed_empty capacity
  have hwithin : n.Within (os.filterMap Occasion.prepared?).dedup := by
    refine ⟨hwell, ?_, hroom⟩
    intro other hsome
    rw [hempty] at hsome
    simp at hsome
  apply looksAlike_filter_of_view_eq hwithin hwell rfl
  intro o ho other hother
  rw [List.mem_dedup]
  exact List.mem_filterMap.2 ⟨o, ho, hother⟩

def roomForTwo : Node := create default { cache := ⟨2⟩ } ⟨.uniform 1, .uniform 2, 0⟩

def twoPeers : List Occasion := [
  ⟨0, .up, .prepare (.ofGroups [1])⟩,
  ⟨0, .up, .prepare (.ofGroups [2])⟩,
  ⟨1, .up, .inspect (.ofGroups [1]) (some .zero)⟩,
  ⟨1, .up, .handleDatagram (.ofGroups [2])
    (Message.setCookie 6 (.compute (.uniform 1) (.ofGroups [2])) .zero).encode⟩,
  ⟨2, .up, .rotate (.uniform 3)⟩,
  ⟨9, .up, .prepare (.ofGroups [1])⟩]

theorem looksAlike_filter_concerns_twoPeers
    : roomForTwo.cache = .empty 2 ∧
      (twoPeers.filterMap Occasion.prepared?).dedup.length ≤ roomForTwo.cache.capacity ∧
      LooksAlike (.ofGroups [1]) roomForTwo twoPeers roomForTwo
        (twoPeers.filter (·.concerns (.ofGroups [1]))) ∧
      twoPeers.filter (·.concerns (.ofGroups [1])) = [
        ⟨0, .up, .prepare (.ofGroups [1])⟩,
        ⟨1, .up, .inspect (.ofGroups [1]) (some .zero)⟩,
        ⟨2, .up, .rotate (.uniform 3)⟩,
        ⟨9, .up, .prepare (.ofGroups [1])⟩] := by
  have hempty : roomForTwo.cache = .empty 2 := rfl
  have hroom : (twoPeers.filterMap Occasion.prepared?).dedup.length ≤ roomForTwo.cache.capacity := by
    decide
  exact ⟨hempty, hroom, looksAlike_filter_concerns hempty hroom (.ofGroups [1]), rfl⟩

end Node

end SourceCookie

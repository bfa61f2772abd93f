import SourceCookie.Proofs.Node.Inbound
import SourceCookie.Proofs.Renewal.Stage

/-!
Peers that fall silent. Once the entry of such a peer was made or renewed, whatever else the node does,
nothing but the times of the datagrams to the peer decides how they are sent.
-/

namespace SourceCookie

def datagramTimes (peer : Ipv6) (os : List Occasion) : List Timestamp :=
  (os.filter (·.operation = .prepare peer)).map Occasion.now

namespace Node

def decisions (n : Node) (peer : Ipv6) : List Occasion → List SendDecision
  | [] => []
  | o :: os =>
    if o.operation = .prepare peer then
      (n.prepare peer o.now).answer :: (n.next o).decisions peer os
    else (n.next o).decisions peer os

/-- The operation makes an entry of `peer` with cookies, or brings a new cookie to one. The entry and the
stage are those that it leaves behind. -/
inductive Starts (n : Node) (peer : Ipv6) (o : Occasion) (e : Entry) : Stage → Prop where
  | created (asked : o.operation = .prepare peer) (absent : n.cache.lookup? peer = none)
    (leaves : (n.next o).cache.lookup? peer = some e) (enabled : e.disableCookies = false)
    : Starts n peer o e .created
  | renewed {e₀ : Entry} {m : Message} (renews : n.Renews peer e₀ m o)
    (leaves : (n.next o).cache.lookup? peer = some e) (enabled : e.disableCookies = false)
    : Starts n peer o e (.renewed e.lifetime.toNat)

variable {n : Node} {peer : Ipv6} {o : Occasion} {e : Entry} {stage : Stage}

theorem Starts.lookup?_next (hstarts : n.Starts peer o e stage)
    : (n.next o).cache.lookup? peer = some e := by
  cases hstarts with
  | created _ _ leaves => exact leaves
  | renewed _ leaves => exact leaves

theorem Starts.ne_fellBack (hstarts : n.Starts peer o e stage) : stage ≠ .fellBack := by
  cases hstarts <;> simp

theorem Starts.inStage (h : n.cache.WellFormed) (hstarts : n.Starts peer o e stage)
    : e.InStage n.settings.timing o.now.toNat stage := by
  cases hstarts with
  | created asked absent leaves enabled =>
    have hstep := entryStep h peer o
    rw [absent, leaves] at hstep
    cases hstep
    have hpolicy : n.policyDisables peer = false := enabled
    rw [hpolicy]
    refine .waiting ?_ rfl rfl rfl ?_
    . simp [Entry.fresh, Lifetime.eq_infinite_iff, Lifetime.toNat]
    . exact Nat.add_assoc _ _ _
  | renewed renews leaves enabled =>
    obtain ⟨⟨lifetime, hnext, hlifetime⟩, _⟩ := renews.lookup?_next h
    rw [hnext, Option.some.injEq] at leaves
    subst leaves
    refine .renewed ?_ enabled rfl rfl
    rw [ne_eq, Lifetime.eq_infinite_iff, hlifetime]
    split
    . decide
    . next hends => exact fun hendless => hends ⟨hendless, enabled⟩

theorem lookup?_next_of_keepsCookie (h : n.cache.WellFormed) (he : n.cache.lookup? peer = some e)
    (hkeeps : n.KeepsCookie peer o) (notAsked : o.operation ≠ .prepare peer)
    : (n.next o).cache.lookup? peer = some e := by
  have hstep := entryStep h peer o
  rw [he] at hstep
  generalize hafter : (n.next o).cache.lookup? peer = after at hstep
  cases hstep with
  | evaluated asked => exact absurd asked notAsked
  | updated _ _ _ _ takes => exact absurd takes hkeeps.2
  | evicted => simp [KeepsCookie, KeepsEntry, hafter] at hkeeps
  | kept => rfl

section Course

variable {timing : Timing} {since : Nat} (hfallback : timing.fallbackLog2 < Lifetime.infiniteLog2)
  (hretry : timing.retryLog2 < Lifetime.infiniteLog2)
include hfallback hretry

theorem prepare_of_inStage_of_lt (htiming : n.settings.timing = timing)
    (he : n.cache.lookup? peer = some e) (hstage : e.InStage timing since stage) {now : Timestamp}
    (hnow : now.toNat < Timestamp.last) (hlt : now.toNat < since + stage.duration timing)
    : (n.prepare peer now).answer = ⟨.unchanged, stage.outbound e.cookie⟩ ∧
      (n.prepare peer now).node.cache.lookup? peer = some e := by
  have heval := (hstage.row_unchanged hlt).evaluate_eq hnow hfallback hretry
  rw [(prepare_of_lookup?_eq_some he now).1, lookup?_prepare_of_lookup?_eq_some he, htiming, heval,
    hstage.outbound_eq]
  exact ⟨rfl, rfl⟩

theorem prepare_of_inStage_of_le (htiming : n.settings.timing = timing)
    (he : n.cache.lookup? peer = some e) (hstage : e.InStage timing since stage) {now : Timestamp}
    (hnow : now.toNat < Timestamp.last) (hle : since + stage.duration timing ≤ now.toNat)
    : (n.prepare peer now).answer = ⟨stage.change, stage.next.outbound e.cookie⟩ ∧
      ∃ e', (n.prepare peer now).node.cache.lookup? peer = some e' ∧ e'.cookie = e.cookie ∧
        e'.InStage timing now.toNat stage.next := by
  obtain ⟨e', hrow, hcookie, hnext⟩ := hstage.row_change hle hfallback hretry
  have heval := hrow.evaluate_eq hnow hfallback hretry
  rw [(prepare_of_lookup?_eq_some he now).1, lookup?_prepare_of_lookup?_eq_some he, htiming, heval,
    hnext.outbound_eq, hcookie]
  exact ⟨rfl, e', rfl, hcookie, hnext⟩

theorem decisions_eq_of_inStage {os : List Occasion} (h : n.cache.WellFormed)
    (htiming : n.settings.timing = timing) (he : n.cache.lookup? peer = some e)
    (hstage : e.InStage timing since stage)
    (hclock : ∀ o ∈ os, o.operation = .prepare peer → o.now.toNat < Timestamp.last)
    (hsilent : Along next (KeepsCookie · peer ·) n os)
    : n.decisions peer os = stage.decisions timing e.cookie since (datagramTimes peer os) := by
  -- each datagram either finds the stage going on or begins the next one
  induction os generalizing n e stage since with
  | nil => rfl
  | cons o os ih =>
    rw [List.forall_mem_cons] at hclock
    obtain ⟨hfirst, hrest⟩ := hclock
    obtain ⟨hkeeps, hlater⟩ := hsilent
    have hwell : (n.next o).cache.WellFormed := wellFormed_step h o
    have htiming' : (n.next o).settings.timing = timing := by
      rw [← htiming]
      exact congrArg Settings.timing (n.settings_step o)
    unfold decisions datagramTimes
    by_cases asked : o.operation = .prepare peer
    . have hnow := hfirst asked
      rw [if_pos asked, List.filter_cons_of_pos (by simpa using asked), List.map_cons, Stage.decisions]
      split
      . next hlt =>
        obtain ⟨hanswer, hlookup⟩ :=
          prepare_of_inStage_of_lt hfallback hretry htiming he hstage hnow hlt
        rw [← next_of_prepare asked] at hlookup
        rw [hanswer, ih hwell htiming' hlookup hstage hrest hlater]
        rfl
      . next hge =>
        obtain ⟨hanswer, e', hlookup, hcookie, hnext⟩ :=
          prepare_of_inStage_of_le hfallback hretry htiming he hstage hnow (Nat.not_lt.1 hge)
        rw [← next_of_prepare asked] at hlookup
        rw [hanswer, ih hwell htiming' hlookup hnext hrest hlater, hcookie]
        rfl
    . have hlookup := lookup?_next_of_keepsCookie h he hkeeps asked
      rw [if_neg asked, List.filter_cons_of_neg (by simpa using asked),
        ih hwell htiming' hlookup hstage hrest hlater]
      rfl

end Course

theorem decisions_eq_and_outbound_of_silent (h : n.cache.WellFormed)
    (hfallback : n.settings.timing.fallbackLog2 < Lifetime.infiniteLog2)
    (hretry : n.settings.timing.retryLog2 < Lifetime.infiniteLog2) (hstarts : n.Starts peer o e stage)
    (os : List Occasion)
    (hclock : ∀ o ∈ os, o.operation = .prepare peer → o.now.toNat < Timestamp.last)
    (hsilent : Along next (KeepsCookie · peer ·) (n.next o) os)
    : (n.next o).decisions peer os
        =
      stage.decisions n.settings.timing e.cookie o.now.toNat (datagramTimes peer os) ∧
      Throughout
        (fun before d =>
          (d.outbound = .plain ↔ InFallback (before ++ [d])) ∧
          (d.outbound = .plain ∨ d.outbound = .withCookie e.cookie))
        ((n.next o).decisions peer os) := by
  have htiming : (n.next o).settings.timing = n.settings.timing :=
    congrArg Settings.timing (n.settings_step o)
  have hdecisions : (n.next o).decisions peer os = _ :=
    decisions_eq_of_inStage hfallback hretry (wellFormed_step h o) htiming hstarts.lookup?_next
      (hstarts.inStage h) hclock hsilent
  refine ⟨hdecisions, ?_⟩
  rw [hdecisions]
  simp only [← Stage.leadsToFallback_iff hstarts.ne_fellBack]
  apply Stage.throughout_decisions

def onlyAnswer : Occasion :=
  ⟨1, .up, .handleDatagram default (Message.setCookie 6 (Engine.currentCookie default default) .zero).encode⟩

def quietDatagrams : List Occasion :=
  [64, 65, 67, 68, 323, 324, 334, 335].map fun now => ⟨now, .up, .prepare default⟩

theorem decisions_eq_and_outbound_of_silent_onlyAnswer
    : ∃ e, unanswered.Starts default onlyAnswer e (.renewed 6) ∧ e.cookie = .zero ∧
        Along next (KeepsCookie · default ·) (unanswered.next onlyAnswer) quietDatagrams ∧
        (unanswered.next onlyAnswer).decisions default quietDatagrams = [
          ⟨.unchanged, .withCookie .zero⟩, ⟨.renewalArmed, .withCookie .zero⟩,
          ⟨.unchanged, .withCookie .zero⟩, ⟨.fallbackEntered, .plain⟩,
          ⟨.unchanged, .plain⟩, ⟨.retryCookies, .withCookie .zero⟩,
          ⟨.unchanged, .withCookie .zero⟩, ⟨.fallbackEntered, .plain⟩] ∧
        Throughout
          (fun before d =>
            (d.outbound = .plain ↔ InFallback (before ++ [d])) ∧
            (d.outbound = .plain ∨ d.outbound = .withCookie e.cookie))
          ((unanswered.next onlyAnswer).decisions default quietDatagrams) := by
  have h : unanswered.cache.WellFormed := wellFormed_run (wellFormed_create _ _ _) _
  have hheld : unanswered.cache.lookup? default
      =
    some (.fresh default false (Engine.currentCookie default default) 0) :=
    lookup?_prepare_of_lookup?_eq_none (wellFormed_create _ _ _) (Cache.lookup?_empty _ _) 0
  have hrenews : unanswered.Renews default _ _ onlyAnswer :=
    ⟨⟨_, rfl, Message.decode_encode_setCookie _ _ _⟩, rfl, hheld, rfl⟩
  have hclock : ∀ o ∈ quietDatagrams, o.operation = .prepare default → o.now.toNat < Timestamp.last := by
    decide
  have hsilent : Along next (KeepsCookie · default ·) (unanswered.next onlyAnswer) quietDatagrams := by
    apply along_of_invariant (fun n : Node => n.cache.WellFormed) _ (wellFormed_step h onlyAnswer)
    intro n o ho hn
    obtain ⟨now, _, rfl⟩ := List.mem_map.1 ho
    exact ⟨⟨keepsEntry_of_prepare hn rfl, not_takesCookie_of_prepare rfl _⟩, wellFormed_step hn _⟩
  obtain ⟨⟨lifetime, hleft, hlifetime⟩, _⟩ := hrenews.lookup?_next h
  have hstarts := Starts.renewed hrenews hleft rfl
  have hstage : Stage.renewed lifetime.toNat = .renewed 6 := congrArg _ hlifetime
  rw [hstage] at hstarts
  have hcourse := decisions_eq_and_outbound_of_silent h (by decide) (by decide) hstarts quietDatagrams
    hclock hsilent
  exact ⟨_, hstarts, rfl, hsilent, hcourse.1, hcourse.2⟩

end Node

end SourceCookie

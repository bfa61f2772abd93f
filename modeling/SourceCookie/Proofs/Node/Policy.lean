import SourceCookie.Proofs.Message
import SourceCookie.Proofs.Node.Step

/-!
Peers that the local policy keeps cookies from. The policy is looked at when an entry is made, which then
has no cookies for good. But a peer that echoes the cookie of such an entry may set the lifetime, and an
entry whose lifetime is over tries cookies again. Datagrams to the peer go plain for exactly as long as no
such lifetime is over.
-/

namespace SourceCookie

theorem Entry.Evaluation.outbound_eq_plain_iff_of_disabled {e e' : Entry} {now : Timestamp} {timing : Timing}
    {t : Transition} (h : e.Evaluation now timing t e') (hdisabled : e.disableCookies = true)
    : e'.outbound = .plain ↔ ¬ e.Due now := by
  rw [outbound_eq_plain_iff]
  cases h with
  | unchanged rest =>
    rcases rest with hvalid | ⟨_, henabled, _⟩
    . simp [hdisabled, band_eq_stillValid_iff.1 hvalid]
    . simp [hdisabled] at henabled
  | retried due _ =>
    rw [ne_eq, band_eq_stillValid_iff, not_not] at due
    simp [setLifetime, touch, setDisable, due]
  | armed _ henabled => simp [hdisabled] at henabled
  | fellBack _ henabled => simp [hdisabled] at henabled

theorem Entry.outbound_evaluate_of_due {e : Entry} {now : Timestamp} (hdisabled : e.disableCookies = true)
    (hdue : e.Due now) (timing : Timing)
    : (e.evaluate now timing).2.outbound = .withCookie e.cookie := by
  rw [evaluate_of_disabled_of_due hdisabled hdue]
  rfl

namespace Node

variable {n : Node} {peer : Ipv6} {o : Occasion} {os : List Occasion}

def TakesLapsing (n : Node) (peer : Ipv6) (now : Timestamp) (o : Occasion) : Prop :=
  n.TakesCookie peer o ∧
    ∃ bytes m seconds, o.operation = .handleDatagram peer bytes ∧ Message.decode bytes = .ok m ∧
      (Lifetime.ofByte m.lifetimeLog2).seconds? = some seconds ∧ o.now.later seconds ≤ now

/-- A lifetime that `peer` set for its entry of now is over by `now`. -/
def Lapsed (n : Node) (os : List Occasion) (peer : Ipv6) (now : Timestamp) : Prop :=
  Since next (TakesLapsing · peer now ·) (KeepsCookie · peer ·) n os

def SendsPlain (n : Node) (peer : Ipv6) (o : Occasion) : Prop :=
  o.operation = .prepare peer → (n.prepare peer o.now).answer.outbound = .plain

theorem takesLapsing_iff_due_accept {e : Entry} {m : Message} {bytes : List UInt8}
    (received : o.operation = .handleDatagram peer bytes) (decoded : Message.decode bytes = .ok m)
    (takes : n.TakesCookie peer o) (hdisabled : e.disableCookies = true) (now : Timestamp)
    : n.TakesLapsing peer now o ↔ (e.accept m o.now).Due now := by
  unfold TakesLapsing Entry.Due Entry.accept
  constructor
  . rintro ⟨_, bytes', m', seconds, received', decoded', hseconds, hover⟩
    rw [received] at received'
    injection received' with _ hbytes
    subst hbytes
    rw [decoded] at decoded'
    injection decoded' with hm
    subst hm
    exact ⟨seconds, by rw [hdisabled]; exact hseconds, hover⟩
  . rintro ⟨seconds, hseconds, hover⟩
    rw [hdisabled] at hseconds
    exact ⟨takes, bytes, m, seconds, received, decoded, hseconds, hover⟩

theorem lapsed_concat {now : Timestamp}
    : n.Lapsed (os ++ [o]) peer now
        ↔
      (n.run os).TakesLapsing peer now o ∨
        (n.Lapsed os peer now ∧ (n.run os).KeepsCookie peer o) := by
  unfold Lapsed
  rw [since_concat, ← run_eq_foldl]

theorem not_takesLapsing {now : Timestamp} (h : ¬ n.TakesCookie peer o)
    : ¬ n.TakesLapsing peer now o := by
  rintro ⟨takes, _⟩
  exact h takes

theorem EntryStep.disabled_and_due {before after : Option Entry} (hstep : n.EntryStep peer o before after)
    (hpolicy : n.policyDisables peer = true) (hplain : n.SendsPlain peer o)
    (hdisabled : ∀ e, before = some e → e.disableCookies = true)
    : (∀ e, after = some e → e.disableCookies = true) ∧
      ∀ now, (∃ e, after = some e ∧ e.Due now)
          ↔
        n.TakesLapsing peer now o ∨
          ((∃ e, before = some e ∧ e.Due now) ∧ after.isSome ∧ ¬ n.TakesCookie peer o) := by
  cases hstep with
  | created asked =>
    have htakes := not_takesCookie_of_prepare (n := n) asked peer
    rw [hpolicy]
    refine ⟨by simp [Entry.fresh], ?_⟩
    intro now
    simp only [Option.some.injEq, exists_eq_left', not_takesLapsing htakes, reduceCtorEq, false_and,
      exists_false, or_self, iff_false]
    exact Entry.not_due_of_infinite rfl now
  | evaluated asked evaluation answered =>
    have htakes := not_takesCookie_of_prepare (n := n) asked peer
    have hsent := hplain asked
    rw [outbound_of_answered asked answered, Entry.outbound_eq_plain_iff] at hsent
    have henabled := hdisabled _ rfl
    -- an entry without cookies is left alone or tries them again, and it sends none here
    cases evaluation with
    | unchanged => simp [not_takesLapsing htakes, htakes, hsent]
    | retried => simp [Entry.setLifetime, Entry.touch, Entry.setDisable] at hsent
    | armed _ enabled => simp [enabled] at henabled
    | fellBack _ enabled => simp [enabled] at henabled
  | updated received decoded _ _ takes =>
    have henabled := hdisabled _ rfl
    refine ⟨?_, ?_⟩
    . rintro e' ⟨⟩
      exact henabled
    . intro now
      simp [takes, takesLapsing_iff_due_accept received decoded takes henabled]
  | evicted asked =>
    have htakes := not_takesCookie_of_prepare (n := n) asked peer
    simp [not_takesLapsing htakes]
  | kept _ _ takesNone =>
    refine ⟨hdisabled, ?_⟩
    cases before <;> simp [not_takesLapsing takesNone, takesNone]

theorem disabled_and_due_iff_lapsed (id : Uuid) (c : Config) (engine : Engine)
    (hpolicy : (create id c engine).policyDisables peer = true)
    (hplain : Throughout (fun before o => ((create id c engine).run before).SendsPlain peer o) os)
    : (∀ e, ((create id c engine).run os).cache.lookup? peer = some e → e.disableCookies = true) ∧
      ∀ now, (∃ e, ((create id c engine).run os).cache.lookup? peer = some e ∧ e.Due now)
          ↔
        (create id c engine).Lapsed os peer now := by
  induction os using List.reverseRecOn with
  | nil => simp [run, Lapsed, not_since_nil]
  | append_singleton os o ih =>
    rw [throughout_concat] at hplain
    obtain ⟨hdisabled, hdue⟩ := ih hplain.1
    have hstep := entryStep (wellFormed_run (wellFormed_create id c engine) os) peer o
    rw [← policyDisables_run _ os] at hpolicy
    rw [run_concat]
    simp only [lapsed_concat, ← hdue]
    exact hstep.disabled_and_due hpolicy hplain.2 hdisabled

theorem sendsPlain_iff_not_lapsed (id : Uuid) (c : Config) (engine : Engine)
    (hpolicy : (create id c engine).policyDisables peer = true)
    (hplain : Throughout (fun before o => ((create id c engine).run before).SendsPlain peer o) os)
    (asked : o.operation = .prepare peer)
    : ((create id c engine).run os).SendsPlain peer o
        ↔
      ¬ (create id c engine).Lapsed os peer o.now := by
  obtain ⟨hdisabled, hdue⟩ := disabled_and_due_iff_lapsed id c engine hpolicy hplain
  have h := wellFormed_run (wellFormed_create id c engine) os
  rw [← hdue]
  unfold SendsPlain
  cases hlookup : ((create id c engine).run os).cache.lookup? peer with
  | none =>
    rw [← policyDisables_run _ os] at hpolicy
    simp [(prepare_of_lookup?_eq_none h hlookup o.now).1, hpolicy, Entry.outbound, Entry.fresh]
  | some e =>
    have hevaluation := e.evaluation o.now ((create id c engine).run os).settings.timing
    simp [asked, (prepare_of_lookup?_eq_some hlookup o.now).1,
      hevaluation.outbound_eq_plain_iff_of_disabled (hdisabled e hlookup)]

theorem outbound_eq_plain_throughout_iff (id : Uuid) (c : Config) (engine : Engine)
    (hpolicy : (create id c engine).policyDisables peer = true) (os : List Occasion)
    : Throughout
        (fun before o => o.operation = .prepare peer →
          (((create id c engine).run before).prepare peer o.now).answer.outbound = .plain) os
        ↔
      Throughout
        (fun before o => o.operation = .prepare peer →
          ¬ (create id c engine).Lapsed before peer o.now) os := by
  induction os using List.reverseRecOn with
  | nil => simp [throughout_nil]
  | append_singleton os o ih =>
    rw [throughout_concat, throughout_concat, ← ih]
    apply and_congr_right
    intro hplain
    apply forall_congr'
    intro asked
    have hiff := sendsPlain_iff_not_lapsed id c engine hpolicy hplain asked
    unfold SendsPlain at hiff
    rw [← hiff]
    simp [asked]

def cookieless : Config := { policy := ⟨["::/0"], .pass⟩ }

theorem outbound_of_second_lifetime (id : Uuid) (c : Config) (engine : Engine)
    (hpolicy : (create id c engine).policyDisables peer = true) (cookie : Cookie)
    : (((create id c engine).run [⟨0, .up, .prepare peer⟩,
          ⟨0, .up, .handleDatagram peer
            (Message.setCookie 0 (engine.currentCookie peer) cookie).encode⟩]).prepare peer
          1).answer.outbound
        =
      .withCookie cookie := by
  have h := wellFormed_create id c engine
  have hfresh := lookup?_prepare_of_lookup?_eq_none h (Cache.lookup?_empty _ peer) 0
  rw [hpolicy] at hfresh
  have hupdated := lookup?_handleDatagram_of_echo hfresh
    (Message.decode_encode_setCookie 0 (engine.currentCookie peer) cookie) rfl rfl .up 0
  have hdecision := (prepare_of_lookup?_eq_some hupdated 1).1
  refine (congrArg SendDecision.outbound hdecision).trans ?_
  apply Entry.outbound_evaluate_of_due rfl
  refine ⟨1, rfl, ?_⟩
  change Timestamp.later 0 1 ≤ 1
  decide

def shortAnswer : List Occasion := [
  ⟨0, .up, .prepare default⟩,
  ⟨0, .up, .handleDatagram default
    (Message.setCookie 0 (Engine.currentCookie default default) .zero).encode⟩]

theorem outbound_eq_plain_throughout_iff_shortAnswer
    : (create default cookieless default).policyDisables default = true ∧
      (((create default cookieless default).run shortAnswer).prepare default 1).answer.outbound
        =
      .withCookie .zero ∧
      (create default cookieless default).Lapsed shortAnswer default 1 := by
  have hpolicy : (create default cookieless default).policyDisables default = true := by
    decide
  have hsent : (((create default cookieless default).run shortAnswer).prepare default 1).answer.outbound
      =
    .withCookie .zero := by
    unfold shortAnswer
    exact outbound_of_second_lifetime default cookieless default hpolicy .zero
  refine ⟨hpolicy, hsent, Classical.byContradiction fun hlasts => ?_⟩
  have hnone : Throughout
      (fun before o => o.operation = .prepare default →
        ¬ (create default cookieless default).Lapsed before default o.now)
      (shortAnswer ++ [⟨1, .up, .prepare default⟩]) := by
    refine throughout_concat.2 ⟨?_, fun _ => hlasts⟩
    rw [shortAnswer, throughout_cons, throughout_cons]
    exact ⟨fun _ => not_since_nil, by simp, throughout_nil⟩
  have hplain := (outbound_eq_plain_throughout_iff default cookieless default hpolicy _).2 hnone
  have hthird := (throughout_concat.1 hplain).2 rfl
  simp [hsent] at hthird

theorem outbound_ne_plain_cookieless
    : cookieless.validate = .ok () ∧
      (create default cookieless default).policyDisables default = true ∧
      (((create default cookieless default).run [⟨0, .up, .prepare default⟩,
          ⟨0, .up, .handleDatagram default
            (Message.setCookie 0 (Engine.currentCookie default default) .zero).encode⟩]).prepare default
          1).answer.outbound
        ≠
      .plain := by
  have hpolicy : (create default cookieless default).policyDisables default = true := by
    decide
  refine ⟨by decide, hpolicy, ?_⟩
  have hsent := outbound_of_second_lifetime default cookieless default hpolicy .zero
  simp [hsent]

end Node

end SourceCookie

import SourceCookie.Proofs.Message
import SourceCookie.Proofs.Node.Step

/-!
Two nodes that exchange datagrams and answers in order: each answer reaches the sender before the sender
does anything else. Then the sender holds the receiver's current cookie after each datagram with a cookie,
and the receiver refuses only the datagram that makes the entry and those that come two rotations late.
-/

namespace SourceCookie

def Occasion.Concerns (o : Occasion) (peer : Ipv6) : Prop :=
  o.operation = .prepare peer ∨ ∃ bytes, o.operation = .handleDatagram peer bytes

structure Exchange where
  sent : Timestamp
  /-- What the receiver does while the datagram is under way. -/
  transit : List Occasion
  handled : Timestamp
  link : Link

structure Pair where
  sender : Node
  receiver : Node

namespace Pair

inductive Move (b : Ipv6) where
  | exchange (x : Exchange)
  | sender (o : Occasion) (apart : ¬ o.Concerns b)
  | receiver (o : Occasion)

def initial (id : Uuid) (c : Config) (engine : Engine) (receiver : Node) : Pair :=
  ⟨.create id c engine, receiver⟩

variable (a b : Ipv6) (p : Pair)

def decision (x : Exchange) : SendDecision := (p.sender.prepare b x.sent).answer

def inspection (x : Exchange) : Verdict × List Effect :=
  (p.receiver.run x.transit).inspect .up a (p.decision b x).outbound.cookie?

def deliver (n : Node) (x : Exchange) (messages : List Message) : Node :=
  messages.foldl (fun n m => (n.handleDatagram x.link b m.encode x.handled).node) n

def afterExchange (x : Exchange) : Pair where
  sender := deliver b (p.sender.prepare b x.sent).node x
    ((Effect.sent (p.inspection a b x).2).map Prod.snd)
  receiver := p.receiver.run x.transit

def step : Move b → Pair
  | .exchange x => p.afterExchange a b x
  | .sender o _ => { p with sender := p.sender.next o }
  | .receiver o => { p with receiver := p.receiver.next o }

def run (moves : List (Move b)) : Pair := moves.foldl (step a b) p

def Carries (p : Pair) : Move b → Prop
  | .exchange x => (p.decision b x).outbound ≠ .plain
  | _ => False

variable {a b p} {x : Exchange}

theorem wellFormed_deliver {n : Node} (h : n.cache.WellFormed) (messages : List Message)
    : (deliver b n x messages).cache.WellFormed := by
  unfold deliver
  apply foldl_preserves fun m : Node => m.cache.WellFormed
  . intro m message hm
    exact Node.wellFormed_handleDatagram hm _ _ _ _
  . exact h

theorem deliver_eq_update (n : Node) (messages : List Message)
    : ∃ cache forgedReports, deliver b n x messages = { n with cache, forgedReports } := by
  unfold deliver
  apply foldl_preserves fun m : Node => ∃ cache forgedReports, m = { n with cache, forgedReports }
  . rintro m message ⟨cache, forgedReports, hm⟩
    obtain ⟨cache', reports', hnode⟩ := m.handleDatagram_eq_update x.link b message.encode x.handled
    exact ⟨cache', reports', by rw [hnode, hm]⟩
  . exact ⟨n.cache, n.forgedReports, rfl⟩

theorem afterExchange_eq_update (a b : Ipv6) (p : Pair) (x : Exchange)
    : ∃ cache forgedReports,
        (p.afterExchange a b x).sender = { p.sender with cache, forgedReports } := by
  obtain ⟨cache, hnode⟩ := p.sender.prepare_eq_update b x.sent
  unfold afterExchange
  simp only
  rw [hnode]
  apply deliver_eq_update

theorem wellFormed_step (h : p.sender.cache.WellFormed) (m : Move b)
    : (p.step a b m).sender.cache.WellFormed := by
  cases m with
  | exchange x =>
    apply wellFormed_deliver
    apply Node.wellFormed_prepare h
  | sender o apart => exact Node.wellFormed_step h o
  | receiver o => exact h

theorem wellFormed_run (h : p.sender.cache.WellFormed) (moves : List (Move b))
    : (p.run a b moves).sender.cache.WellFormed := by
  unfold run
  apply foldl_preserves fun q : Pair => q.sender.cache.WellFormed
  . intro q m hq
    exact wellFormed_step hq m
  . exact h

theorem run_concat (moves : List (Move b)) (m : Move b)
    : p.run a b (moves ++ [m]) = (p.run a b moves).step a b m := by
  unfold run
  rw [List.foldl_append]
  rfl

theorem rotated_step (m : Move b)
    : p.receiver.engine.Rotated (p.step a b m).receiver.engine := by
  cases m with
  | exchange x => exact Node.rotated_run p.receiver x.transit
  | sender o apart => exact .refl
  | receiver o => exact Node.rotated_next p.receiver o

theorem sender_afterExchange_of_plain (hplain : (p.decision b x).outbound = .plain)
    : (p.afterExchange a b x).sender = (p.sender.prepare b x.sent).node := by
  unfold afterExchange inspection
  rw [hplain]
  rfl

theorem lookup?_afterExchange_of_prepare {e : Entry}
    (he : (p.sender.prepare b x.sent).node.cache.lookup? b = some e)
    (houtbound : (p.decision b x).outbound = e.outbound)
    : (p.afterExchange a b x).sender.cache.lookup? b
        =
      if e.disableCookies = true ∨ (p.receiver.run x.transit).engine.currentCookie a = e.cookie then
        some e
      else some (e.accept ((p.receiver.run x.transit).offer a e.cookie) x.handled) := by
  unfold afterExchange inspection
  rw [houtbound, Entry.cookie?_outbound]
  cases hdisabled : e.disableCookies with
  | true => simp [Node.inspect, Effect.sent, deliver, he]
  | false =>
    simp only [Bool.false_eq_true, ↓reduceIte, false_or]
    rcases (p.receiver.run x.transit).inspect_up_cases a e.cookie with
      ⟨hcurrent, _, hsent⟩ | ⟨hother, _, hsent⟩
    . simp [hcurrent, hsent, deliver, he]
    . simp only [hother, ↓reduceIte, hsent, List.map_cons, List.map_nil, deliver, List.foldl_cons,
        List.foldl_nil]
      exact Node.lookup?_handleDatagram_of_echo he (Message.decode_encode_setCookie _ _ _) rfl rfl _ _

theorem lookup?_afterExchange (h : p.sender.cache.WellFormed)
    (hcarries : (p.decision b x).outbound ≠ .plain)
    : ∃ e, (p.afterExchange a b x).sender.cache.lookup? b = some e ∧ e.disableCookies = false ∧
        e.cookie = (p.afterExchange a b x).receiver.engine.currentCookie a := by
  obtain ⟨e, he, houtbound⟩ := Node.lookup?_prepare h b x.sent
  rw [decision, houtbound, ne_eq, Entry.outbound_eq_plain_iff, Bool.not_eq_true] at hcarries
  rw [lookup?_afterExchange_of_prepare he houtbound, hcarries]
  split
  . next hcurrent =>
    rcases hcurrent with hdisabled | hcurrent
    . contradiction
    . exact ⟨e, rfl, hcarries, hcurrent.symm⟩
  . exact ⟨_, rfl, hcarries, rfl⟩

/-- The move is an exchange whose datagram carries a cookie. It leaves the receiver with keys of which
`engine` comes by rotations, and with `cookie` as the current one. -/
def Brings (a b : Ipv6) (cookie : Cookie) (engine : Engine) (p : Pair) (m : Move b) : Prop :=
  p.Carries b m ∧ (p.step a b m).receiver.engine.currentCookie a = cookie ∧
    (p.step a b m).receiver.engine.Rotated engine

def Settled (a b : Ipv6) (start : Pair) (moves : List (Move b)) (e : Entry) : Prop :=
  e.disableCookies = true ∧ e.lifetime = .infinite ∨
    Since (step a b) (Brings a b e.cookie (start.run a b moves).receiver.engine) (¬ Carries b · ·)
      start moves

theorem Settled.concat {start : Pair} {moves : List (Move b)} {e e' : Entry} {m : Move b}
    (h : Settled a b start moves e) (hplain : ¬ (start.run a b moves).Carries b m)
    (hcookie : e'.cookie = e.cookie)
    (hforever : e.disableCookies = true ∧ e.lifetime = .infinite → e' = e)
    : Settled a b start (moves ++ [m]) e' := by
  rcases h with hdisabled | hsince
  . rw [hforever hdisabled]
    exact Or.inl hdisabled
  . apply Or.inr
    rw [since_concat]
    refine Or.inr ⟨?_, hplain⟩
    apply hsince.imp
    rintro p m' ⟨hcarries, hcurrent, hrotated⟩
    rw [run_concat, hcookie]
    exact ⟨hcarries, hcurrent, hrotated.trans (rotated_step m)⟩

theorem Settled.prepare {start : Pair} {moves : List (Move b)} {x : Exchange} {before : Option Entry}
    {e : Entry} (hsettled : ∀ e, before = some e → Settled a b start moves e)
    (hplain : ((start.run a b moves).decision b x).outbound = .plain)
    (hstep : (start.run a b moves).sender.EntryStep b ⟨x.sent, x.link, .prepare b⟩ before (some e))
    : Settled a b start (moves ++ [.exchange x]) e := by
  have hcarries : ¬ (start.run a b moves).Carries b (.exchange x) := by
    simpa [Carries] using hplain
  cases hstep with
  | created asked answered =>
    rw [decision, Node.outbound_of_answered asked answered, Entry.outbound_eq_plain_iff] at hplain
    have hpolicy : (start.run a b moves).sender.policyDisables b = true := hplain
    exact Or.inl ⟨hplain, by simp [Entry.fresh, hpolicy]⟩
  | @evaluated e0 _ t _ evaluation answered =>
    apply (hsettled e0 rfl).concat hcarries evaluation.cookie_eq
    rintro ⟨_, hinfinite⟩
    exact evaluation.eq_of_infinite hinfinite
  | updated received => simp at received
  | kept _ notAsked => simp at notAsked

theorem settled (id : Uuid) (c : Config) (engine : Engine) (receiver : Node) (moves : List (Move b))
    {e : Entry}
    (he : ((initial id c engine receiver).run a b moves).sender.cache.lookup? b = some e)
    : Settled a b (initial id c engine receiver) moves e := by
  induction moves using List.reverseRecOn generalizing e with
  | nil => simp [run, initial] at he
  | append_singleton moves m ih =>
    have h : ((initial id c engine receiver).run a b moves).sender.cache.WellFormed :=
      wellFormed_run (Node.wellFormed_create id c engine) moves
    rw [run_concat] at he
    cases m with
    | exchange x =>
      -- an answer sets the cookie, and there is one just if the datagram carries a cookie
      by_cases hplain : (((initial id c engine receiver).run a b moves).decision b x).outbound = .plain
      . have hstep := Node.entryStep h b ⟨x.sent, x.link, .prepare b⟩
        unfold step at he
        rw [sender_afterExchange_of_plain hplain] at he
        have he' : (((initial id c engine receiver).run a b moves).sender.next
            ⟨x.sent, x.link, .prepare b⟩).cache.lookup? b = some e := he
        rw [he'] at hstep
        exact Settled.prepare (fun e => ih) hplain hstep
      . obtain ⟨e', he', _, hcookie⟩ := lookup?_afterExchange (a := a) h hplain
        unfold step at he
        rw [he] at he'
        injection he' with he'
        subst he'
        apply Or.inr
        rw [since_concat, run_concat]
        exact Or.inl ⟨hplain, hcookie.symm, .refl⟩
    | sender o apart =>
      have hstep := Node.entryStep h b o
      unfold step at he
      simp only at he
      rw [he] at hstep
      generalize hbefore : ((initial id c engine receiver).run a b moves).sender.cache.lookup? b
        = before at hstep
      cases hstep with
      | created asked => exact absurd (Or.inl asked) apart
      | evaluated asked => exact absurd (Or.inl asked) apart
      | updated received => exact absurd (Or.inr ⟨_, received⟩) apart
      | kept _ _ _ => exact (ih hbefore).concat (by simp [Carries]) rfl (fun _ => rfl)
    | receiver o =>
      exact (ih he).concat (by simp [Carries]) rfl (fun _ => rfl)

theorem created_or_brings_of_reject {start : Pair} {moves : List (Move b)}
    (h : (start.run a b moves).sender.cache.WellFormed)
    (hsettled : ∀ e, (start.run a b moves).sender.cache.lookup? b = some e → Settled a b start moves e)
    (hcarries : ((start.run a b moves).decision b x).outbound ≠ .plain)
    (hreject : ((start.run a b moves).inspection a b x).1 = .reject)
    : (∃ disabled, ((start.run a b moves).decision b x).transition = .created disabled) ∨
      Since (step a b)
        (fun p m => p.Carries b m ∧ (p.step a b m).receiver.engine.epoch + 2
          ≤ ((start.run a b moves).afterExchange a b x).receiver.engine.epoch)
        (¬ Carries b · ·) start moves := by
  have hrotated := Node.rotated_run (start.run a b moves).receiver x.transit
  unfold inspection at hreject
  unfold decision at hcarries hreject ⊢
  cases hlookup : (start.run a b moves).sender.cache.lookup? b with
  | none =>
    rw [(Node.prepare_of_lookup?_eq_none h hlookup x.sent).1]
    exact Or.inl ⟨_, rfl⟩
  | some e =>
    have hevaluation := e.evaluation x.sent (start.run a b moves).sender.settings.timing
    rw [(Node.prepare_of_lookup?_eq_some hlookup x.sent).1] at hcarries hreject
    rw [ne_eq, Entry.outbound_eq_plain_iff, Bool.not_eq_true] at hcarries
    rw [Entry.cookie?_outbound, hcarries, hevaluation.cookie_eq] at hreject
    have hinvalid := Node.check_eq_invalid_of_reject hreject
    rcases hsettled e hlookup with ⟨hdisabled, hinfinite⟩ | hsince
    -- an entry without cookies for good does not come to carry one
    . rw [hevaluation.eq_of_infinite hinfinite, hdisabled] at hcarries
      simp at hcarries
    . apply Or.inr
      apply hsince.imp
      rintro p m ⟨hcarried, hcookie, hline⟩
      rw [← hcookie] at hinvalid
      exact ⟨hcarried, (hline.trans hrotated).add_two_le_of_check_eq_invalid hinvalid⟩

/-- After each datagram with a cookie the sender attaches cookies and holds the receiver's current one;
and such a datagram is refused only if it makes the entry, or if the receiver has rotated at least twice
since the last one before it. -/
theorem current_afterExchange_and_epoch_le_of_reject (a b : Ipv6) (id : Uuid) (c : Config)
    (engine : Engine) (receiver : Node) (moves : List (Move b)) {p : Pair}
    (hrun : (initial id c engine receiver).run a b moves = p) (x : Exchange)
    (hcarries : (p.decision b x).outbound ≠ .plain)
    : (∃ e, (p.afterExchange a b x).sender.cache.lookup? b = some e ∧ e.disableCookies = false ∧
        e.cookie = (p.afterExchange a b x).receiver.engine.currentCookie a) ∧
      ((p.inspection a b x).1 = .reject →
        (∃ disabled, (p.decision b x).transition = .created disabled) ∨
        Since (step a b)
          (fun q m => q.Carries b m ∧ (q.step a b m).receiver.engine.epoch + 2
            ≤ (p.afterExchange a b x).receiver.engine.epoch)
          (¬ Carries b · ·) (initial id c engine receiver) moves) := by
  subst hrun
  have h : ((initial id c engine receiver).run a b moves).sender.cache.WellFormed :=
    wellFormed_run (Node.wellFormed_create id c engine) moves
  constructor
  . exact lookup?_afterExchange h hcarries
  . exact created_or_brings_of_reject h (fun _ => settled id c engine receiver moves) hcarries

def fresh : Pair :=
  initial default {} ⟨.uniform 1, .uniform 2, 0⟩ (.create default {} ⟨.uniform 3, .uniform 4, 0⟩)

def overtaking : List (Move (.ofGroups [2])) := [
  .exchange ⟨0, [], 0, .up⟩,
  .sender ⟨1, .up, .prepare (.ofGroups [9])⟩ (by simp [Occasion.Concerns]; decide),
  .receiver ⟨1, .up, .rotate (.uniform 5)⟩,
  .receiver ⟨2, .up, .rotate (.uniform 6)⟩]

def overtaken : Pair := fresh.run (.ofGroups [1]) (.ofGroups [2]) overtaking

theorem current_afterExchange_and_epoch_le_of_reject_overtaken
    : overtaken.decision (.ofGroups [2]) ⟨3, [], 3, .up⟩
          =
        ⟨.unchanged, .withCookie (.compute (.uniform 3) (.ofGroups [1]))⟩ ∧
      (overtaken.inspection (.ofGroups [1]) (.ofGroups [2]) ⟨3, [], 3, .up⟩).1 = .reject ∧
      (∃ e, (overtaken.afterExchange (.ofGroups [1]) (.ofGroups [2])
            ⟨3, [], 3, .up⟩).sender.cache.lookup? (.ofGroups [2]) = some e ∧
          e.disableCookies = false ∧ e.cookie = .compute (.uniform 6) (.ofGroups [1])) ∧
      Since (step (.ofGroups [1]) (.ofGroups [2]))
        (fun q m => q.Carries (.ofGroups [2]) m ∧
          (q.step (.ofGroups [1]) (.ofGroups [2]) m).receiver.engine.epoch + 2 ≤ 2)
        (¬ Carries (.ofGroups [2]) · ·) fresh overtaking := by
  have hdecision : overtaken.decision (.ofGroups [2]) ⟨3, [], 3, .up⟩
      =
    ⟨.unchanged, .withCookie (.compute (.uniform 3) (.ofGroups [1]))⟩ := by
    decide +kernel
  have hreject : (overtaken.inspection (.ofGroups [1]) (.ofGroups [2]) ⟨3, [], 3, .up⟩).1 = .reject := by
    decide +kernel
  have hcarries : (overtaken.decision (.ofGroups [2]) ⟨3, [], 3, .up⟩).outbound ≠ .plain := by
    simp [hdecision]
  obtain ⟨hcurrent, hrefused⟩ := current_afterExchange_and_epoch_le_of_reject (.ofGroups [1]) (.ofGroups [2])
    default {} ⟨.uniform 1, .uniform 2, 0⟩ (.create default {} ⟨.uniform 3, .uniform 4, 0⟩) overtaking
    (p := overtaken) rfl ⟨3, [], 3, .up⟩ hcarries
  refine ⟨hdecision, hreject, hcurrent, ?_⟩
  rcases hrefused hreject with ⟨disabled, hcreated⟩ | hsince
  . simp [hdecision] at hcreated
  . exact hsince

end Pair

end SourceCookie

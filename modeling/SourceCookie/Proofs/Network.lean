import SourceCookie.Proofs.Message
import SourceCookie.Proofs.Node.Step

/-!
Two nodes and a network that loses, repeats, delays and reorders what they send, and forges datagrams in
the sender's name. The echo in an answer is all that keeps the sender from taking an old cookie again. It
is enough: an answer echoes no cookie of the epoch that it was made in or of a later one.
-/

namespace SourceCookie

structure Network where
  sender : Node
  receiver : Node
  carried : List Cookie
  offers : List Message

namespace Network

inductive Move where
  | sender (o : Occasion)
  | receiver (o : Occasion)

variable (a b : Ipv6)

def attached (n : Node) (o : Occasion) : Option Cookie :=
  match o.operation with
  | .prepare peer => if peer = b then (n.prepare peer o.now).answer.outbound.cookie? else none
  | _ => none

def answers (n : Node) (o : Occasion) : List Message :=
  match o.operation with
  | .inspect source cookie =>
    (Effect.sent (n.inspect o.link source cookie).2).filterMap fun (peer, m) =>
      if peer = a then some m else none
  | _ => []

def step (w : Network) : Move → Network
  | .sender o =>
    { w with sender := w.sender.next o, carried := (attached b w.sender o).toList ++ w.carried }
  | .receiver o =>
    { w with receiver := w.receiver.next o, offers := answers a w.receiver o ++ w.offers }

def run (w : Network) (moves : List Move) : Network := moves.foldl (step a b) w

def initial (id : Uuid) (c : Config) (engine : Engine) (receiver : Node) : Network :=
  ⟨.create id c engine, receiver, [], []⟩

/-- The run comes to an epoch of the receiver in which `cookie` is its current one for `a`. -/
def Current (start : Network) (moves : List Move) (epoch : Nat) (cookie : Cookie) : Prop :=
  ∃ before, before <+: moves ∧ (start.run a b before).receiver.engine.epoch = epoch ∧
    (start.run a b before).receiver.engine.currentCookie a = cookie

/-- What is taken for granted of a run: the network makes up no answers of the receiver and no cookies that
the receiver has yet to come to, and cookies do not collide by chance. -/
structure Faithful (start : Network) (moves : List Move) : Prop where
  /-- What comes to the sender as an answer of the receiver is one, however old. -/
  offered : Throughout (fun before move => ∀ o bytes m, move = .sender o →
    o.operation = .handleDatagram b bytes → Message.decode bytes = .ok m → m.code = .setCookie →
    m ∈ (start.run a b before).offers) moves
  /-- A cookie that comes to the receiver in the sender's name is the sender's, or any but those that the
  receiver only comes to later. -/
  shown : Throughout (fun before move => ∀ o cookie, move = .receiver o →
    o.operation = .inspect a (some cookie) →
    cookie ∈ (start.run a b before).carried ∨
      ∀ k, Current a b start moves k cookie → k ≤ (start.run a b before).receiver.engine.epoch) moves
  /-- The receiver's cookies of different epochs differ. -/
  distinct : ∀ j k cookie, Current a b start moves j cookie → Current a b start moves k cookie → j = k
  /-- They differ from the cookies that entries are made with. -/
  unseeded : Throughout (fun before move => ∀ o, move = .sender o → o.operation = .prepare b →
    (start.run a b before).sender.cache.lookup? b = none →
    ∀ k, ¬ Current a b start moves k ((start.run a b before).sender.engine.currentCookie b)) moves

def Creates (seed : Cookie) (w : Network) (move : Move) : Prop :=
  ∃ o, move = .sender o ∧ o.operation = .prepare b ∧ w.sender.cache.lookup? b = none ∧
    w.sender.engine.currentCookie b = seed

def Keeps (w : Network) (move : Move) : Prop :=
  ((w.step a b move).sender.cache.lookup? b).isSome

def Seeded (start : Network) (moves : List Move) (seed : Cookie) : Prop :=
  Since (step a b) (Creates b seed) (Keeps a b) start moves

variable {a b} {start : Network} {moves before : List Move} {move : Move} {k : Nat} {cookie : Cookie}

theorem run_concat (start : Network) (moves : List Move) (move : Move)
    : start.run a b (moves ++ [move]) = (start.run a b moves).step a b move := by
  unfold run
  rw [List.foldl_append]
  rfl

theorem rotated_step (w : Network) (move : Move)
    : w.receiver.engine.Rotated (w.step a b move).receiver.engine := by
  cases move with
  | sender o => exact .refl
  | receiver o => exact Node.rotated_next w.receiver o

theorem rotated_run (w : Network) (moves : List Move)
    : w.receiver.engine.Rotated (w.run a b moves).receiver.engine := by
  unfold run
  apply foldl_preserves fun v : Network => w.receiver.engine.Rotated v.receiver.engine
  . intro v move h
    exact h.trans (v.rotated_step move)
  . exact .refl

theorem rotated_of_begins (start : Network) (hbegins : before <+: moves)
    : (start.run a b before).receiver.engine.Rotated (start.run a b moves).receiver.engine := by
  obtain ⟨after, hafter⟩ := hbegins
  subst hafter
  unfold run
  rw [List.foldl_append]
  apply rotated_run

theorem wellFormed_step {w : Network} (h : w.sender.cache.WellFormed) (move : Move)
    : (w.step a b move).sender.cache.WellFormed := by
  cases move with
  | sender o => exact Node.wellFormed_step h o
  | receiver o => exact h

theorem wellFormed_run {w : Network} (h : w.sender.cache.WellFormed) (moves : List Move)
    : (w.run a b moves).sender.cache.WellFormed := by
  unfold run
  apply foldl_preserves fun v : Network => v.sender.cache.WellFormed
  . intro v move hv
    exact wellFormed_step hv move
  . exact h

namespace Current

theorem of_begins (h : Current a b start before k cookie) (hbegins : before <+: moves)
    : Current a b start moves k cookie := by
  obtain ⟨earlier, hearlier, hcurrent⟩ := h
  exact ⟨earlier, hearlier.trans hbegins, hcurrent⟩

theorem now (a b : Ipv6) (start : Network) (moves : List Move)
    : Current a b start moves (start.run a b moves).receiver.engine.epoch
        ((start.run a b moves).receiver.engine.currentCookie a) :=
  ⟨moves, List.prefix_rfl, rfl, rfl⟩

theorem epoch_le (h : Current a b start moves k cookie)
    : k ≤ (start.run a b moves).receiver.engine.epoch := by
  obtain ⟨earlier, hearlier, hepoch, _⟩ := h
  rw [← hepoch]
  exact (rotated_of_begins start hearlier).epoch_le

theorem eq_of_epoch_eq (h : Current a b start moves k cookie) (hbegins : before <+: moves)
    (hepoch : (start.run a b before).receiver.engine.epoch = k)
    : (start.run a b before).receiver.engine.currentCookie a = cookie := by
  obtain ⟨other, hother, hepoch', hcookie⟩ := h
  rw [← hcookie]
  rcases List.prefix_or_prefix_of_prefix hbegins hother with hle | hle
  . rw [(rotated_of_begins start hle).eq_of_epoch_eq (hepoch'.trans hepoch.symm)]
  . rw [(rotated_of_begins start hle).eq_of_epoch_eq (hepoch.trans hepoch'.symm)]

end Current

def Sound (a b : Ipv6) (start : Network) (moves before : List Move) (e : Entry) : Prop :=
  ∃ seed, Seeded a b start before seed ∧ (∀ k, ¬ Current a b start moves k seed) ∧
    (e.cookie = seed ∨ ∃ k, Current a b start before k e.cookie)

/-- What holds after each beginning `before` of a run: no cookie that is under way is ahead of the receiver,
and each answer asks for a cookie of a later epoch than the one it echoes. -/
structure Consistent (a b : Ipv6) (start : Network) (moves before : List Move) : Prop where
  entry : ∀ e, (start.run a b before).sender.cache.lookup? b = some e →
    Sound a b start moves before e
  carried : ∀ cookie ∈ (start.run a b before).carried, ∀ k, Current a b start moves k cookie →
    k ≤ (start.run a b before).receiver.engine.epoch
  offers : ∀ m ∈ (start.run a b before).offers, ∃ k, Current a b start before k m.requested ∧
    ∀ j, Current a b start moves j m.echoed → j < k

theorem Seeded.concat {seed : Cookie} (h : Seeded a b start before seed)
    (hkept : (((start.run a b before).step a b move).sender.cache.lookup? b).isSome)
    : Seeded a b start (before ++ [move]) seed := by
  unfold Seeded
  rw [since_concat]
  exact Or.inr ⟨h, hkept⟩

theorem Sound.concat {e e' : Entry} (h : Sound a b start moves before e)
    (hafter : ((start.run a b before).step a b move).sender.cache.lookup? b = some e')
    (hcookie : e'.cookie = e.cookie ∨ ∃ k, Current a b start before k e'.cookie)
    : Sound a b start moves (before ++ [move]) e' := by
  obtain ⟨seed, hseeded, hunseeded, hheld⟩ := h
  refine ⟨seed, hseeded.concat (by simp [hafter]), hunseeded, ?_⟩
  have hbegins : before <+: before ++ [move] := List.prefix_append _ _
  rcases hcookie with hsame | ⟨k, hcurrent⟩
  . rw [hsame]
    rcases hheld with hseed | ⟨k, hcurrent⟩
    . exact Or.inl hseed
    . exact Or.inr ⟨k, hcurrent.of_begins hbegins⟩
  . exact Or.inr ⟨k, hcurrent.of_begins hbegins⟩

theorem Sound.epoch_le {e : Entry} (h : Sound a b start moves before e)
    (hfaithful : Faithful a b start moves) (hbegins : before <+: moves)
    (hcurrent : Current a b start moves k e.cookie)
    : k ≤ (start.run a b before).receiver.engine.epoch := by
  obtain ⟨seed, _, hunseeded, hseed | ⟨j, hheld⟩⟩ := h
  . rw [hseed] at hcurrent
    exact absurd hcurrent (hunseeded k)
  . rw [hfaithful.distinct k j e.cookie hcurrent (hheld.of_begins hbegins)]
    exact hheld.epoch_le

theorem eq_some_of_attached {n : Node} {o : Occasion} (h : n.cache.WellFormed)
    (hattached : attached b n o = some cookie)
    : ∃ e, (n.next o).cache.lookup? b = some e ∧ e.cookie = cookie := by
  unfold attached at hattached
  split at hattached
  . next peer hprepare =>
    split at hattached
    . next hpeer =>
      subst hpeer
      obtain ⟨e, he, houtbound⟩ := Node.lookup?_prepare h peer o.now
      rw [houtbound, Entry.cookie?_outbound] at hattached
      split at hattached
      . simp at hattached
      . injection hattached with hcookie
        refine ⟨e, ?_, hcookie⟩
        rw [Node.next_of_prepare hprepare]
        exact he
    . simp at hattached
  . simp at hattached

theorem of_mem_answers {n : Node} {o : Occasion} {m : Message} (hmem : m ∈ answers a n o)
    : ∃ cookie, o.operation = .inspect a (some cookie) ∧ n.engine.currentCookie a ≠ cookie ∧
        m = n.offer a cookie := by
  unfold answers at hmem
  split at hmem
  . next source shown hinspect =>
    simp only [List.mem_filterMap, Prod.exists, Option.ite_none_right_eq_some, Option.some.injEq]
      at hmem
    obtain ⟨peer, m', hsent, hpeer, hm⟩ := hmem
    subst hpeer hm
    obtain ⟨hsource, cookie, hshown, hne, hoffer⟩ := Node.mem_sent_inspect hsent
    subst hsource hshown
    exact ⟨cookie, hinspect, hne, hoffer⟩
  . simp at hmem

namespace Consistent

variable {o : Occasion}

theorem entry_sender (h : Consistent a b start moves before) (hfaithful : Faithful a b start moves)
    (hwell : (start.run a b before).sender.cache.WellFormed)
    (hbegins : before ++ [.sender o] <+: moves) {e' : Entry}
    (hafter : ((start.run a b before).sender.next o).cache.lookup? b = some e')
    : Sound a b start moves (before ++ [.sender o]) e' := by
  have hstep := Node.entryStep hwell b o
  rw [hafter] at hstep
  generalize hbefore : (start.run a b before).sender.cache.lookup? b = x at hstep
  cases hstep with
  | created asked =>
    refine ⟨_, ?_, hfaithful.unseeded.of_begins hbegins o rfl asked hbefore, Or.inl rfl⟩
    unfold Seeded
    rw [since_concat]
    exact Or.inl ⟨o, rfl, asked, hbefore, rfl⟩
  | @evaluated e _ _ _ evaluation =>
    exact (h.entry e hbefore).concat hafter (Or.inl evaluation.cookie_eq)
  | @updated e m bytes received decoded code =>
    have hoffered := hfaithful.offered.of_begins hbegins o bytes m rfl received decoded code
    obtain ⟨k, hcurrent, _⟩ := h.offers m hoffered
    exact (h.entry e hbefore).concat hafter (Or.inr ⟨k, hcurrent⟩)
  | kept =>
    exact (h.entry e' hbefore).concat hafter (Or.inl rfl)

theorem sender (h : Consistent a b start moves before) (hfaithful : Faithful a b start moves)
    (hwell : (start.run a b before).sender.cache.WellFormed)
    (hbegins : before ++ [.sender o] <+: moves)
    : Consistent a b start moves (before ++ [.sender o]) where
  entry := by
    intro e he
    rw [run_concat] at he
    exact h.entry_sender hfaithful hwell hbegins he
  carried := by
    intro cookie hmem k hcurrent
    rw [run_concat] at hmem ⊢
    simp only [step, List.mem_append, Option.mem_toList] at hmem
    rcases hmem with hattached | hold
    -- the datagram carries what the entry holds afterwards, and the entry is sound
    . obtain ⟨e, he, hcookie⟩ := eq_some_of_attached hwell hattached
      rw [← hcookie] at hcurrent
      have hle := (h.entry_sender hfaithful hwell hbegins he).epoch_le hfaithful hbegins hcurrent
      rw [run_concat] at hle
      exact hle
    . exact h.carried cookie hold k hcurrent
  offers := by
    intro m hmem
    rw [run_concat] at hmem
    obtain ⟨k, hcurrent, hlt⟩ := h.offers m hmem
    exact ⟨k, hcurrent.of_begins (List.prefix_append _ _), hlt⟩

theorem receiver (h : Consistent a b start moves before) (hfaithful : Faithful a b start moves)
    (hbegins : before ++ [.receiver o] <+: moves)
    : Consistent a b start moves (before ++ [.receiver o]) where
  entry := by
    intro e he
    rw [run_concat] at he
    exact (h.entry e he).concat he (Or.inl rfl)
  carried := by
    intro cookie hmem k hcurrent
    rw [run_concat] at hmem ⊢
    have hle := h.carried cookie hmem k hcurrent
    exact Nat.le_trans hle (rotated_step (start.run a b before) (.receiver o)).epoch_le
  offers := by
    intro m hmem
    rw [run_concat] at hmem
    simp only [step, List.mem_append] at hmem
    rcases hmem with hnew | hold
    -- the echo is of an epoch up to now, and an answer always asks for the current cookie
    . obtain ⟨cookie, hinspect, hne, hoffer⟩ := of_mem_answers hnew
      subst hoffer
      have hbefore : before <+: moves := (List.prefix_append _ _).trans hbegins
      refine ⟨_, (Current.now a b start before).of_begins (List.prefix_append _ _), ?_⟩
      intro j hcurrent
      have hle : j ≤ (start.run a b before).receiver.engine.epoch := by
        rcases hfaithful.shown.of_begins hbegins o cookie rfl hinspect with hcarried | hreached
        . exact h.carried cookie hcarried j hcurrent
        . exact hreached j hcurrent
      -- a datagram with the current cookie has no answer
      have hother : (start.run a b before).receiver.engine.epoch ≠ j := by
        intro hepoch
        exact hne (hcurrent.eq_of_epoch_eq hbefore hepoch)
      omega
    . obtain ⟨k, hcurrent, hlt⟩ := h.offers m hold
      exact ⟨k, hcurrent.of_begins (List.prefix_append _ _), hlt⟩

end Consistent

theorem consistent (id : Uuid) (c : Config) (engine : Engine) (receiver : Node)
    (hfaithful : Faithful a b (initial id c engine receiver) moves) (hbegins : before <+: moves)
    : Consistent a b (initial id c engine receiver) moves before := by
  -- induction over the beginnings of the run, as `Faithful` speaks of the whole run
  induction before using List.reverseRecOn with
  | nil =>
    constructor
    . simp [run, initial]
    . simp [run, initial]
    . simp [run, initial]
  | append_singleton before move ih =>
    have h := ih ((List.prefix_append _ _).trans hbegins)
    cases move with
    | sender o =>
      apply h.sender hfaithful _ hbegins
      exact wellFormed_run (Node.wellFormed_create id c engine) before
    | receiver o => exact h.receiver hfaithful hbegins

theorem Consistent.advances (h : Consistent a b start moves before) (hfaithful : Faithful a b start moves)
    (hwell : (start.run a b before).sender.cache.WellFormed) {o : Occasion}
    (hbegins : before ++ [.sender o] <+: moves)
    (htakes : (start.run a b before).sender.TakesCookie b o)
    : ∃ e e' k, (start.run a b before).sender.cache.lookup? b = some e ∧
        ((start.run a b before).sender.next o).cache.lookup? b = some e' ∧
        Current a b start before k e'.cookie ∧
        (Seeded a b start before e.cookie ∨ ∃ j, j < k ∧ Current a b start before j e.cookie) := by
  have hstep := Node.entryStep hwell b o
  generalize hbefore : (start.run a b before).sender.cache.lookup? b = x at hstep
  generalize hafter : ((start.run a b before).sender.next o).cache.lookup? b = y at hstep
  -- an entry takes a cookie over from an answer only
  cases hstep with
  | created asked => exact absurd htakes (Node.not_takesCookie_of_prepare asked b)
  | evaluated asked => exact absurd htakes (Node.not_takesCookie_of_prepare asked b)
  | evicted asked => exact absurd htakes (Node.not_takesCookie_of_prepare asked b)
  | kept _ _ takesNone => exact absurd htakes takesNone
  | @updated e m bytes received decoded code echo =>
    have hoffered := hfaithful.offered.of_begins hbegins o bytes m rfl received decoded code
    obtain ⟨k, hcurrent, hlt⟩ := h.offers m hoffered
    refine ⟨e, _, k, rfl, rfl, hcurrent, ?_⟩
    obtain ⟨seed, hseeded, _, hseed | ⟨j, hheld⟩⟩ := h.entry e hbefore
    . rw [hseed]
      exact Or.inl hseeded
    -- the message echoes the cookie that the entry holds
    . rw [← echo] at hlt
      have hbefore : before <+: moves := (List.prefix_append _ _).trans hbegins
      exact Or.inr ⟨j, hlt j (hheld.of_begins hbefore), hheld⟩

/-- The sender holds, from when its entry is made until the entry leaves, the cookie that the entry was made
with or one that the receiver has come to, and takes new cookies in the order of the receiver's epochs. -/
theorem cookie_reached_and_advances (a b : Ipv6) (id : Uuid) (c : Config) (engine : Engine)
    (receiver : Node) (moves : List Move)
    (hfaithful : Faithful a b (initial id c engine receiver) moves)
    : (∀ before, before <+: moves → ∀ e,
        ((initial id c engine receiver).run a b before).sender.cache.lookup? b = some e →
        ∃ seed, Seeded a b (initial id c engine receiver) before seed ∧
          (e.cookie = seed ∨
            ∃ k, Current a b (initial id c engine receiver) before k e.cookie)) ∧
      Throughout (fun before move => ∀ o, move = .sender o →
        ((initial id c engine receiver).run a b before).sender.TakesCookie b o →
        ∃ e e' k,
          ((initial id c engine receiver).run a b before).sender.cache.lookup? b = some e ∧
          (((initial id c engine receiver).run a b before).sender.next o).cache.lookup? b
            =
          some e' ∧
          Current a b (initial id c engine receiver) before k e'.cookie ∧
          (Seeded a b (initial id c engine receiver) before e.cookie ∨
            ∃ j, j < k ∧ Current a b (initial id c engine receiver) before j e.cookie))
        moves := by
  constructor
  . intro before hbegins e he
    obtain ⟨seed, hseeded, _, hheld⟩ := (consistent id c engine receiver hfaithful hbegins).entry e he
    exact ⟨seed, hseeded, hheld⟩
  . intro before move after hsplit o hmove htakes
    subst hmove
    have hbegins : before ++ [.sender o] <+: moves := ⟨after, by simp [hsplit]⟩
    have h := consistent id c engine receiver hfaithful ((List.prefix_append _ _).trans hbegins)
    apply h.advances hfaithful _ hbegins htakes
    exact wellFormed_run (Node.wellFormed_create id c engine) before

section Renewal

variable (a b) (engine : Engine) (receiver : Node) (drawn : SecretKey)

def contact : List Move := [
  .sender ⟨0, .up, .prepare b⟩,
  .receiver ⟨0, .up, .inspect a (some (engine.currentCookie b))⟩,
  .sender ⟨0, .up, .handleDatagram b (receiver.offer a (engine.currentCookie b)).encode⟩,
  .receiver ⟨1, .up, .rotate drawn⟩,
  .sender ⟨1, .up, .prepare b⟩,
  .receiver ⟨1, .up, .inspect a (some (receiver.engine.currentCookie a))⟩]

def renewal : Occasion :=
  ⟨1, .up, .handleDatagram b
    ((receiver.rotate drawn).node.offer a (receiver.engine.currentCookie a)).encode⟩

def renewed : List Move := contact a b engine receiver drawn ++ [.sender (renewal a b receiver drawn)]

variable {a b} {id : Uuid} {c : Config} {engine receiver drawn}

theorem current_renewed
    (h : Current a b (initial id c engine receiver) (renewed a b engine receiver drawn) k cookie)
    : k = receiver.engine.epoch ∧ cookie = receiver.engine.currentCookie a ∨
      k = receiver.engine.epoch + 1 ∧ cookie = (receiver.engine.rotate drawn).currentCookie a := by
  obtain ⟨before, hbegins, rfl, rfl⟩ := h
  have hfrom : receiver.engine.Rotated
      ((initial id c engine receiver).run a b before).receiver.engine :=
    rotated_run (initial id c engine receiver) before
  have hto : ((initial id c engine receiver).run a b before).receiver.engine.Rotated
      (receiver.engine.rotate drawn) :=
    rotated_of_begins (initial id c engine receiver) hbegins
  have hle := hfrom.epoch_le
  have hle' : ((initial id c engine receiver).run a b before).receiver.engine.epoch
      ≤
    receiver.engine.epoch + 1 :=
    hto.epoch_le
  by_cases hepoch : ((initial id c engine receiver).run a b before).receiver.engine.epoch
      =
    receiver.engine.epoch
  . rw [hfrom.eq_of_epoch_eq hepoch]
    exact Or.inl ⟨rfl, rfl⟩
  . have hlast : receiver.engine.epoch + 1
        =
      ((initial id c engine receiver).run a b before).receiver.engine.epoch := by
      omega
    rw [← hto.eq_of_epoch_eq hlast]
    exact Or.inr ⟨rfl, rfl⟩

theorem answers_of_ne {n : Node} (hne : n.engine.currentCookie a ≠ cookie) (now : Timestamp)
    : answers a n ⟨now, .up, .inspect a (some cookie)⟩ = [n.offer a cookie] := by
  unfold answers
  rcases n.inspect_up_cases a cookie with ⟨hcurrent, _⟩ | ⟨_, _, hsent⟩
  . exact absurd hcurrent hne
  . simp [hsent]

theorem mem_answers_of_decode {n : Node} {m : Message} (hne : n.engine.currentCookie a ≠ cookie)
    (now : Timestamp) (hdecode : Message.decode (n.offer a cookie).encode = .ok m)
    : m ∈ answers a n ⟨now, .up, .inspect a (some cookie)⟩ := by
  unfold Node.offer at hdecode
  rw [Message.decode_encode_setCookie] at hdecode
  injection hdecode with hm
  subst hm
  rw [answers_of_ne hne]
  exact List.mem_singleton_self _

def informed (a b : Ipv6) (n receiver : Node) : Node :=
  ((n.prepare b 0).node.handleDatagram .up b
    (receiver.offer a (n.engine.currentCookie b)).encode 0).node

theorem lookup?_informed (id : Uuid) (c : Config) (engine : Engine) (receiver : Node)
    : ∃ e, (informed a b (.create id c engine) receiver).cache.lookup? b = some e ∧
        e.cookie = receiver.engine.currentCookie a := by
  have hfresh := Node.lookup?_prepare_of_lookup?_eq_none (Node.wellFormed_create id c engine)
    (Node.lookup?_create id c engine b) 0
  exact ⟨_, Node.lookup?_handleDatagram_of_echo hfresh (Message.decode_encode_setCookie ..) rfl rfl .up 0, rfl⟩

theorem lookup?_contact (id : Uuid) (c : Config) (engine : Engine) (receiver : Node) (drawn : SecretKey)
    : ∃ e, ((initial id c engine receiver).run a b (contact a b engine receiver drawn)).sender.cache.lookup? b
          =
        some e ∧
        e.cookie = receiver.engine.currentCookie a := by
  obtain ⟨e, he, hcookie⟩ := lookup?_informed (a := a) (b := b) id c engine receiver
  refine ⟨_, Node.lookup?_prepare_of_lookup?_eq_some he 1, ?_⟩
  rw [(e.evaluation 1 _).cookie_eq, hcookie]

theorem throughout_renewed_iff {R : List Move → Move → Prop}
    : Throughout R (renewed a b engine receiver drawn)
        ↔
      Throughout R (contact a b engine receiver drawn) ∧
        R (contact a b engine receiver drawn) (.sender (renewal a b receiver drawn)) :=
  throughout_concat

theorem eq_nil_of_absent
    : Throughout (fun before move => ∀ o, move = .sender o → o.operation = .prepare b →
          ((initial id c engine receiver).run a b before).sender.cache.lookup? b = none → before = [])
        (renewed a b engine receiver drawn) := by
  rw [throughout_renewed_iff, contact, throughout_cons, throughout_cons, throughout_cons, throughout_cons,
    throughout_cons, throughout_cons]
  refine ⟨⟨fun _ _ _ _ => rfl, by simp, by simp, by simp, ?_, by simp, throughout_nil⟩, by simp [renewal]⟩
  rintro o ⟨⟩ _ habsent
  obtain ⟨e, he, _⟩ := lookup?_informed (a := a) (b := b) id c engine receiver
  exact absurd (he.symm.trans habsent) (by simp)

structure Apart (a b : Ipv6) (engine : Engine) (receiver : Node) (drawn : SecretKey) : Prop where
  first : engine.currentCookie b ≠ receiver.engine.currentCookie a
  second : engine.currentCookie b ≠ (receiver.engine.rotate drawn).currentCookie a
  successive : receiver.engine.currentCookie a ≠ (receiver.engine.rotate drawn).currentCookie a

namespace Apart

theorem ne_of_current (h : Apart a b engine receiver drawn)
    (hcurrent : Current a b (initial id c engine receiver) (renewed a b engine receiver drawn) k cookie)
    : engine.currentCookie b ≠ cookie := by
  rcases current_renewed hcurrent with ⟨_, hcookie⟩ | ⟨_, hcookie⟩
  . rw [hcookie]
    exact h.first
  . rw [hcookie]
    exact h.second

theorem offered (h : Apart a b engine receiver drawn) (id : Uuid) (c : Config)
    : Throughout (fun before move => ∀ o bytes m, move = .sender o →
          o.operation = .handleDatagram b bytes → Message.decode bytes = .ok m → m.code = .setCookie →
          m ∈ ((initial id c engine receiver).run a b before).offers)
        (renewed a b engine receiver drawn) := by
  rw [throughout_renewed_iff, contact, throughout_cons, throughout_cons, throughout_cons, throughout_cons,
    throughout_cons, throughout_cons]
  refine ⟨⟨?_, by simp, ?_, by simp, ?_, by simp, throughout_nil⟩, ?_⟩
  . rintro o bytes m ⟨⟩ hreceived
    simp at hreceived
  . rintro o bytes m ⟨⟩ ⟨⟩ hdecode _
    exact List.mem_append_left _ (mem_answers_of_decode h.first.symm 0 hdecode)
  . rintro o bytes m ⟨⟩ hreceived
    simp at hreceived
  -- the receiver has rotated once when it makes this answer
  . rintro o bytes m ⟨⟩ ⟨⟩ hdecode _
    have hne : (receiver.rotate drawn).node.engine.currentCookie a ≠ receiver.engine.currentCookie a :=
      h.successive.symm
    exact List.mem_append_left _ (mem_answers_of_decode hne 1 hdecode)

theorem shown (h : Apart a b engine receiver drawn) (id : Uuid) (c : Config)
    : Throughout (fun before move => ∀ o cookie, move = .receiver o →
          o.operation = .inspect a (some cookie) →
          cookie ∈ ((initial id c engine receiver).run a b before).carried ∨
            ∀ k, Current a b (initial id c engine receiver) (renewed a b engine receiver drawn) k cookie →
              k ≤ ((initial id c engine receiver).run a b before).receiver.engine.epoch)
        (renewed a b engine receiver drawn) := by
  rw [throughout_renewed_iff, contact, throughout_cons, throughout_cons, throughout_cons, throughout_cons,
    throughout_cons, throughout_cons]
  refine ⟨⟨by simp, ?_, by simp, ?_, by simp, ?_, throughout_nil⟩, by simp⟩
  . rintro o cookie ⟨⟩ ⟨⟩
    exact Or.inr fun k hcurrent => absurd rfl (h.ne_of_current hcurrent)
  . rintro o cookie ⟨⟩ hinspected
    simp at hinspected
  . rintro o cookie ⟨⟩ ⟨⟩
    apply Or.inr
    intro k hcurrent
    rcases current_renewed hcurrent with ⟨rfl, _⟩ | ⟨_, heq⟩
    . exact Nat.le_succ _
    . exact absurd heq h.successive

theorem eq_of_current {j : Nat} (h : Apart a b engine receiver drawn)
    (hj : Current a b (initial id c engine receiver) (renewed a b engine receiver drawn) j cookie)
    (hk : Current a b (initial id c engine receiver) (renewed a b engine receiver drawn) k cookie)
    : j = k := by
  rcases current_renewed hj with ⟨rfl, rfl⟩ | ⟨rfl, rfl⟩ <;>
    rcases current_renewed hk with ⟨rfl, heq⟩ | ⟨rfl, heq⟩
  . rfl
  . exact absurd heq h.successive
  . exact absurd heq.symm h.successive
  . rfl

theorem faithful (h : Apart a b engine receiver drawn) (id : Uuid) (c : Config)
    : Faithful a b (initial id c engine receiver) (renewed a b engine receiver drawn) where
  offered := h.offered id c
  shown := h.shown id c
  distinct := fun _ _ _ hj hk => h.eq_of_current hj hk
  unseeded := by
    intro before move after hsplit o hmove hprepare habsent k hcurrent
    obtain rfl := eq_nil_of_absent before move after hsplit o hmove hprepare habsent
    exact absurd rfl (h.ne_of_current hcurrent)

end Apart

theorem eq_currentCookie_of_seeded {seed : Cookie}
    (h : Seeded a b (initial id c engine receiver) (contact a b engine receiver drawn) seed)
    : seed = engine.currentCookie b := by
  obtain ⟨before, move, after, hsplit, ⟨o, hmove, hprepare, habsent, hseed⟩, _⟩ := h
  have hsplit' : renewed a b engine receiver drawn
      =
    before ++ move :: (after ++ [.sender (renewal a b receiver drawn)]) := by
    rw [renewed, hsplit, List.append_assoc, List.cons_append]
  obtain rfl := eq_nil_of_absent before move _ hsplit' o hmove hprepare habsent
  exact hseed.symm

theorem takesCookie_renewal (id : Uuid) (c : Config) (engine : Engine) (receiver : Node) (drawn : SecretKey)
    : ((initial id c engine receiver).run a b (contact a b engine receiver drawn)).sender.TakesCookie b
        (renewal a b receiver drawn) := by
  obtain ⟨e, he, hcookie⟩ := lookup?_contact (a := a) (b := b) id c engine receiver drawn
  refine ⟨⟨_, rfl⟩, congrArg Answer.outcome ?_⟩
  exact (Node.handleDatagram_of_echo he (Message.decode_encode_setCookie ..) rfl hcookie .up 1).1

def meetingEngine : Engine := ⟨.uniform 1, .uniform 2, 0⟩

def meetingReceiver : Node := .create default {} ⟨.uniform 3, .uniform 4, 0⟩

theorem cookie_reached_and_advances_renewed
    : Faithful (.ofGroups [1]) (.ofGroups [2]) (initial default {} meetingEngine meetingReceiver)
        (renewed (.ofGroups [1]) (.ofGroups [2]) meetingEngine meetingReceiver (.uniform 5)) ∧
      ∃ e e' j k,
        ((initial default {} meetingEngine meetingReceiver).run (.ofGroups [1]) (.ofGroups [2])
          (contact (.ofGroups [1]) (.ofGroups [2]) meetingEngine meetingReceiver
            (.uniform 5))).sender.cache.lookup? (.ofGroups [2])
          =
        some e ∧
        (((initial default {} meetingEngine meetingReceiver).run (.ofGroups [1]) (.ofGroups [2])
            (contact (.ofGroups [1]) (.ofGroups [2]) meetingEngine meetingReceiver (.uniform 5))).sender.next
          (renewal (.ofGroups [1]) (.ofGroups [2]) meetingReceiver (.uniform 5))).cache.lookup? (.ofGroups [2])
          =
        some e' ∧
        j < k ∧
        Current (.ofGroups [1]) (.ofGroups [2]) (initial default {} meetingEngine meetingReceiver)
          (contact (.ofGroups [1]) (.ofGroups [2]) meetingEngine meetingReceiver (.uniform 5)) j e.cookie ∧
        Current (.ofGroups [1]) (.ofGroups [2]) (initial default {} meetingEngine meetingReceiver)
          (contact (.ofGroups [1]) (.ofGroups [2]) meetingEngine meetingReceiver (.uniform 5)) k
          e'.cookie := by
  have hapart : Apart (.ofGroups [1]) (.ofGroups [2]) meetingEngine meetingReceiver (.uniform 5) :=
    ⟨by decide +kernel, by decide +kernel, by decide +kernel⟩
  have hfaithful := hapart.faithful default {}
  obtain ⟨e, e', k, he, he', hcurrent, hbefore⟩ := (cookie_reached_and_advances (.ofGroups [1]) (.ofGroups [2])
    default {} meetingEngine meetingReceiver _ hfaithful).2 _ _ [] rfl _ rfl
    (takesCookie_renewal default {} meetingEngine meetingReceiver (.uniform 5))
  refine ⟨hfaithful, e, e', ?_⟩
  rcases hbefore with hseeded | ⟨j, hlt, hheld⟩
  -- the entry has already left the cookie that it was made with
  . obtain ⟨e₁, he₁, hcookie⟩ := lookup?_contact (a := .ofGroups [1]) (b := .ofGroups [2]) default {}
      meetingEngine meetingReceiver (.uniform 5)
    rw [he₁] at he
    injection he with he
    rw [← he, hcookie] at hseeded
    exact absurd (eq_currentCookie_of_seeded hseeded).symm hapart.first
  . exact ⟨j, k, he, he', hlt, hheld, hcurrent⟩

end Renewal

end Network

end SourceCookie

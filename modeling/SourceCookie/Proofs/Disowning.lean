import SourceCookie.Proofs.Message
import SourceCookie.Proofs.Node.Effects

/-!
Two nodes and a network that forges nothing, so that whatever one of them takes for the other's is the
other's. A node that disowns a datagram only tells that it has no entry for the peer. The peer cannot know
whether there has never been one: it takes its own partner for an impostor just when the partner has
dropped its entry between a datagram and the answer to it.
-/

namespace SourceCookie

structure Conversation where
  sender : Node
  receiver : Node
  datagrams : List (Option Cookie)
  fromSender : List Message
  fromReceiver : List Message

namespace Conversation

inductive Move where
  | sender (o : Occasion)
  | receiver (o : Occasion)

variable (a b : Ipv6)

def datagram? (n : Node) (o : Occasion) : Option (Option Cookie) :=
  match o.operation with
  | .prepare peer => if peer = b then some (n.prepare peer o.now).answer.outbound.cookie? else none
  | _ => none

def messagesTo (peer : Ipv6) (n : Node) (o : Occasion) : List Message :=
  (Effect.sent (n.step o).effects).filterMap fun (destination, m) =>
    if destination = peer then some m else none

def step (w : Conversation) : Move → Conversation
  | .sender o =>
    { w with
      sender := w.sender.next o
      datagrams := (datagram? b w.sender o).toList ++ w.datagrams
      fromSender := messagesTo b w.sender o ++ w.fromSender }
  | .receiver o =>
    { w with
      receiver := w.receiver.next o
      fromReceiver := messagesTo a w.receiver o ++ w.fromReceiver }

def run (w : Conversation) (moves : List Move) : Conversation := moves.foldl (step a b) w

def initial (id id' : Uuid) (c c' : Config) (engine engine' : Engine) : Conversation :=
  ⟨.create id c engine, .create id' c' engine', [], [], []⟩

def Among (bytes : List UInt8) (messages : List Message) : Prop :=
  ∀ m, Message.decode bytes = .ok m → m ∈ messages

/-- Whatever comes in the name of the other node was sent by it, however long ago. -/
def Genuine (w : Conversation) : Move → Prop
  | .sender ⟨_, _, .handleDatagram source bytes⟩ => source = b → Among bytes w.fromReceiver
  | .receiver ⟨_, _, .handleDatagram source bytes⟩ => source = a → Among bytes w.fromSender
  | .receiver ⟨_, _, .inspect source shown⟩ => source = a → shown ∈ w.datagrams
  | _ => True

def Sends (start : Conversation) (cookie : Cookie) (before : List Move) (move : Move) : Prop :=
  ∃ o, move = .sender o ∧ datagram? b (start.run a b before).sender o = some (some cookie)

def Evicts (start : Conversation) (before : List Move) (move : Move) : Prop :=
  ((start.run a b before).sender.cache.lookup? b).isSome ∧
    ((start.run a b before).step a b move).sender.cache.lookup? b = none

def Forgotten (start : Conversation) (cookie : Cookie) (moves : List Move) : Prop :=
  Once (fun before move => Evicts a b start before move ∧ Once (Sends a b start cookie) before) moves

def Disowns (start : Conversation) (cookie : Cookie) (before : List Move) (move : Move) : Prop :=
  ∃ o bytes m, move = .sender o ∧ o.operation = .handleDatagram b bytes ∧
    Message.decode bytes = .ok m ∧ m.code = .setCookie ∧ m.echoed = cookie ∧
    (start.run a b before).sender.cache.lookup? b = none

def DisownedOwn (start : Conversation) (cookie : Cookie) (moves : List Move) : Prop :=
  Once (fun before move => Disowns a b start cookie before move ∧ Forgotten a b start cookie before)
    moves

def Alarms (n : Node) (o : Occasion) (text : String) : Prop :=
  (n.id, .spoofDetected a text) ∈ Effect.findings (n.step o).effects

instance (bytes : List UInt8) (messages : List Message) : Decidable (Among bytes messages) :=
  match hdecode : Message.decode bytes with
  | .ok m => decidable_of_iff (m ∈ messages) (by simp [Among, hdecode])
  | .error _ => isTrue (by simp [Among, hdecode])

instance (w : Conversation) (move : Move) : Decidable (Genuine a b w move) :=
  match move with
  | .sender ⟨_, _, .prepare _⟩ => isTrue trivial
  | .sender ⟨_, _, .inspect _ _⟩ => isTrue trivial
  | .sender ⟨_, _, .handleDatagram source bytes⟩ =>
    inferInstanceAs (Decidable (source = b → Among bytes w.fromReceiver))
  | .sender ⟨_, _, .rotate _⟩ => isTrue trivial
  | .sender ⟨_, _, .elapse _⟩ => isTrue trivial
  | .receiver ⟨_, _, .prepare _⟩ => isTrue trivial
  | .receiver ⟨_, _, .inspect source shown⟩ =>
    inferInstanceAs (Decidable (source = a → shown ∈ w.datagrams))
  | .receiver ⟨_, _, .handleDatagram source bytes⟩ =>
    inferInstanceAs (Decidable (source = a → Among bytes w.fromSender))
  | .receiver ⟨_, _, .rotate _⟩ => isTrue trivial
  | .receiver ⟨_, _, .elapse _⟩ => isTrue trivial

variable {a b} {start w : Conversation} {moves before : List Move} {move : Move} {o : Occasion}
  {cookie : Cookie} {bytes : List UInt8} {m : Message}

namespace Genuine

theorem mem_datagrams {shown : Option Cookie} (h : Genuine a b w (.receiver o))
    (shows : o.operation = .inspect a shown)
    : shown ∈ w.datagrams := by
  obtain ⟨now, link, operation⟩ := o
  subst shows
  exact h rfl

theorem mem_fromReceiver (h : Genuine a b w (.sender o)) (received : o.operation = .handleDatagram b bytes)
    (decoded : Message.decode bytes = .ok m)
    : m ∈ w.fromReceiver := by
  obtain ⟨now, link, operation⟩ := o
  subst received
  exact h rfl m decoded

theorem mem_fromSender (h : Genuine a b w (.receiver o)) (received : o.operation = .handleDatagram a bytes)
    (decoded : Message.decode bytes = .ok m)
    : m ∈ w.fromSender := by
  obtain ⟨now, link, operation⟩ := o
  subst received
  exact h rfl m decoded

end Genuine

theorem run_concat (start : Conversation) (moves : List Move) (move : Move)
    : start.run a b (moves ++ [move]) = (start.run a b moves).step a b move := by
  unfold run
  rw [List.foldl_append]
  rfl

@[simp]
theorem run_nil (w : Conversation) : w.run a b [] = w := rfl

@[simp]
theorem run_cons (w : Conversation) (move : Move) (moves : List Move)
    : w.run a b (move :: moves) = (w.step a b move).run a b moves :=
  rfl

theorem engine_sender_step (w : Conversation) (move : Move)
    : (w.step a b move).sender.engine
        =
      match move with
      | .sender ⟨_, _, .rotate drawn⟩ => w.sender.engine.rotate drawn
      | _ => w.sender.engine := by
  cases move with
  | sender o =>
    obtain ⟨now, link, operation⟩ := o
    cases operation <;> apply Node.engine_step
  | receiver o => rfl

theorem engine_receiver_step (w : Conversation) (move : Move)
    : (w.step a b move).receiver.engine
        =
      match move with
      | .receiver ⟨_, _, .rotate drawn⟩ => w.receiver.engine.rotate drawn
      | _ => w.receiver.engine := by
  cases move with
  | sender o => rfl
  | receiver o =>
    obtain ⟨now, link, operation⟩ := o
    cases operation <;> apply Node.engine_step

theorem wellFormed_run {w : Conversation} (h : w.sender.cache.WellFormed) (moves : List Move)
    : (w.run a b moves).sender.cache.WellFormed := by
  unfold run
  apply foldl_preserves fun v : Conversation => v.sender.cache.WellFormed
  . intro v move hv
    cases move with
    | sender o => exact Node.wellFormed_step hv o
    | receiver o => exact hv
  . exact h

theorem isSome_of_datagram? {n : Node} (h : n.cache.WellFormed) {shown : Option Cookie}
    (hgives : datagram? b n o = some shown)
    : ((n.next o).cache.lookup? b).isSome := by
  unfold datagram? at hgives
  split at hgives
  . next peer hprepare =>
    split at hgives
    . next hpeer =>
      subst hpeer
      exact Node.keepsEntry_of_prepare h hprepare
    . contradiction
  . contradiction

theorem of_mem_messagesTo {peer : Ipv6} {n : Node} {m : Message} (hmem : m ∈ messagesTo peer n o)
    : (∃ cookie, o.operation = .inspect peer (some cookie) ∧ n.engine.currentCookie peer ≠ cookie ∧
        m = n.offer peer cookie) ∨
      ∃ bytes m', o.operation = .handleDatagram peer bytes ∧ Message.decode bytes = .ok m' ∧
        m'.code = .setCookie ∧ n.cache.lookup? peer = none ∧ m = .notExpected m'.echoed := by
  unfold messagesTo at hmem
  simp only [List.mem_filterMap, Prod.exists, Option.ite_none_right_eq_some, Option.some.injEq] at hmem
  obtain ⟨destination, m', hsent, hpeer, hm⟩ := hmem
  subst hpeer hm
  exact Node.mem_sent_step hsent

structure Traced (a b : Ipv6) (start : Conversation) (before : List Move) : Prop where
  datagrams : ∀ cookie, some cookie ∈ (start.run a b before).datagrams →
    Once (Sends a b start cookie) before
  fromReceiver : ∀ m ∈ (start.run a b before).fromReceiver, m.code = .setCookie →
    some m.echoed ∈ (start.run a b before).datagrams
  fromSender : ∀ m ∈ (start.run a b before).fromSender, m.code = .notExpected →
    DisownedOwn a b start m.echoed before
  entry : ∀ cookie, Once (Sends a b start cookie) before →
    ((start.run a b before).sender.cache.lookup? b).isSome ∨ Forgotten a b start cookie before

namespace Traced

theorem nil (id id' : Uuid) (c c' : Config) (engine engine' : Engine)
    : Traced a b (initial id id' c c' engine engine') [] where
  datagrams := by simp [run, initial]
  fromReceiver := by simp [run, initial]
  fromSender := by simp [run, initial]
  entry := by
    intro cookie hsent
    exact absurd hsent not_once_nil

theorem entry_concat (h : Traced a b start before)
    (hwell : (start.run a b before).sender.cache.WellFormed)
    (hsent : Once (Sends a b start cookie) (before ++ [move]))
    : ((start.run a b (before ++ [move])).sender.cache.lookup? b).isSome ∨
        Forgotten a b start cookie (before ++ [move]) := by
  unfold Forgotten
  rw [run_concat, once_concat]
  rw [once_concat] at hsent
  cases hafter : ((start.run a b before).step a b move).sender.cache.lookup? b with
  | some e => exact Or.inl rfl
  | none =>
    apply Or.inr
    rcases hsent with hearlier | ⟨o, hmove, hgives⟩
    . rcases h.entry cookie hearlier with hheld | hforgotten
      . exact Or.inr ⟨⟨hheld, hafter⟩, hearlier⟩
      . exact Or.inl hforgotten
    -- a datagram leaves an entry
    . subst hmove
      have hheld := isSome_of_datagram? hwell hgives
      have hnone : ((start.run a b before).sender.next o).cache.lookup? b = none := hafter
      simp [hnone] at hheld

theorem sender (h : Traced a b start before)
    (hgenuine : Genuine a b (start.run a b before) (.sender o))
    (hwell : (start.run a b before).sender.cache.WellFormed)
    : Traced a b start (before ++ [.sender o]) where
  datagrams := by
    intro cookie hmem
    rw [run_concat] at hmem
    rw [once_concat]
    simp only [step, List.mem_append, Option.mem_toList] at hmem
    rcases hmem with hgives | hold
    . exact Or.inr ⟨o, rfl, hgives⟩
    . exact Or.inl (h.datagrams cookie hold)
  fromReceiver := by
    intro m hmem hcode
    rw [run_concat] at hmem ⊢
    exact List.mem_append_right _ (h.fromReceiver m hmem hcode)
  fromSender := by
    intro m hmem hcode
    rw [run_concat] at hmem
    unfold DisownedOwn
    rw [once_concat]
    simp only [step, List.mem_append] at hmem
    rcases hmem with hnew | hold
    . rcases of_mem_messagesTo hnew with ⟨cookie, _, _, hm⟩ | ⟨bytes, m', received, decoded, hset, hnone, hm⟩
      . simp [hm, Node.offer, Message.setCookie] at hcode
      -- the disowned cookie is one that the receiver answered, so the sender sent it
      . have hanswer := hgenuine.mem_fromReceiver received decoded
        have hsent := h.datagrams _ (h.fromReceiver m' hanswer hset)
        have hforgotten : Forgotten a b start m'.echoed before := by
          rcases h.entry _ hsent with hheld | hforgotten
          . simp [hnone] at hheld
          . exact hforgotten
        rw [hm]
        exact Or.inr ⟨⟨o, bytes, m', rfl, received, decoded, hset, rfl, hnone⟩, hforgotten⟩
    . exact Or.inl (h.fromSender m hold hcode)
  entry := fun _ hsent => h.entry_concat hwell hsent

theorem receiver (h : Traced a b start before)
    (hgenuine : Genuine a b (start.run a b before) (.receiver o))
    (hwell : (start.run a b before).sender.cache.WellFormed)
    : Traced a b start (before ++ [.receiver o]) where
  datagrams := by
    intro cookie hmem
    rw [run_concat] at hmem
    rw [once_concat]
    exact Or.inl (h.datagrams cookie hmem)
  fromReceiver := by
    intro m hmem hcode
    rw [run_concat] at hmem ⊢
    simp only [step, List.mem_append] at hmem ⊢
    rcases hmem with hnew | hold
    . rcases of_mem_messagesTo hnew with ⟨cookie, hinspect, _, hm⟩ | ⟨_, m', _, _, _, _, hm⟩
      -- an offer echoes the cookie of a datagram, which the sender has sent
      . rw [hm]
        exact hgenuine.mem_datagrams hinspect
      . simp [hm, Message.notExpected] at hcode
    . exact h.fromReceiver m hold hcode
  fromSender := by
    intro m hmem hcode
    rw [run_concat] at hmem
    unfold DisownedOwn
    rw [once_concat]
    exact Or.inl (h.fromSender m hmem hcode)
  entry := fun _ hsent => h.entry_concat hwell hsent

end Traced

theorem traced (id id' : Uuid) (c c' : Config) (engine engine' : Engine)
    (hgenuine : Along (step a b) (Genuine a b) (initial id id' c c' engine engine') moves)
    : Traced a b (initial id id' c c' engine engine') moves := by
  induction moves using List.reverseRecOn with
  | nil => exact Traced.nil id id' c c' engine engine'
  | append_singleton moves move ih =>
    obtain ⟨hbefore, hlast⟩ := along_concat.1 hgenuine
    have h := ih hbefore
    have hwell : ((initial id id' c c' engine engine').run a b moves).sender.cache.WellFormed :=
      wellFormed_run (Node.wellFormed_create id c engine) moves
    cases move with
    | sender o => exact h.sender hlast hwell
    | receiver o => exact h.receiver hlast hwell

theorem alarms_iff {n : Node} {text : String}
    : Alarms a n o text
        ↔
      ∃ bytes m, o.operation = .handleDatagram a bytes ∧ Message.decode bytes = .ok m ∧
        m.code = .notExpected ∧ n.engine.verify m.echoed a = true ∧ m.echoed.render = text := by
  unfold Alarms
  rw [Node.mem_findings_step_iff]
  constructor
  . rintro ⟨peer, bytes, m, received, decoded, hcode, hverify, _, hfinding⟩
    injection hfinding with hpeer htext
    subst hpeer
    exact ⟨bytes, m, received, decoded, hcode, hverify, htext.symm⟩
  . rintro ⟨bytes, m, received, decoded, hcode, hverify, htext⟩
    exact ⟨a, bytes, m, received, decoded, hcode, hverify, rfl, by rw [htext]⟩

/-- The receiver takes its partner for an impostor just when the partner has disowned a datagram of its
own, having dropped the entry since, and the cookie of the datagram still verifies. It never does while the
partner keeps the entry. -/
theorem alarms_iff_disownedOwn (a b : Ipv6) (id id' : Uuid) (c c' : Config) (engine engine' : Engine)
    (moves : List Move)
    (hgenuine : Along (step a b) (Genuine a b) (initial id id' c c' engine engine') moves)
    : Throughout (fun before move => ∀ o text, move = .receiver o →
        (Alarms a ((initial id id' c c' engine engine').run a b before).receiver o text
          ↔
        ∃ bytes m, o.operation = .handleDatagram a bytes ∧ Message.decode bytes = .ok m ∧
          m.code = .notExpected ∧ m.echoed.render = text ∧
          ((initial id id' c c' engine engine').run a b before).receiver.engine.verify m.echoed a
            =
          true ∧
          DisownedOwn a b (initial id id' c c' engine engine') m.echoed before)) moves ∧
      (¬ Once (Evicts a b (initial id id' c c' engine engine')) moves →
        Throughout (fun before move => ∀ o text, move = .receiver o →
          ¬ Alarms a ((initial id id' c c' engine engine').run a b before).receiver o text) moves) := by
  -- a genuine message was sent before, and its sender had a reason to disown the datagram
  have hdisowned : Throughout (fun before move => ∀ o bytes m, move = .receiver o →
      o.operation = .handleDatagram a bytes → Message.decode bytes = .ok m → m.code = .notExpected →
      DisownedOwn a b (initial id id' c c' engine engine') m.echoed before) moves := by
    intro before move after hsplit o bytes m hmove received decoded hcode
    rw [hsplit, along_append, hmove] at hgenuine
    obtain ⟨hbefore, hlast, _⟩ := hgenuine
    have h := traced id id' c c' engine engine' hbefore
    exact h.fromSender m (hlast.mem_fromSender received decoded) hcode
  constructor
  . intro before move after hsplit o text hmove
    rw [alarms_iff]
    constructor
    . rintro ⟨bytes, m, received, decoded, hcode, hverify, htext⟩
      exact ⟨bytes, m, received, decoded, hcode, htext, hverify,
        hdisowned before move after hsplit o bytes m hmove received decoded hcode⟩
    . rintro ⟨bytes, m, received, decoded, hcode, htext, hverify, _⟩
      exact ⟨bytes, m, received, decoded, hcode, hverify, htext⟩
  . intro hkept before move after hsplit o text hmove halarms
    obtain ⟨bytes, m, received, decoded, hcode, _, _⟩ := alarms_iff.1 halarms
    obtain ⟨earlier, disowning, later, hearlier, _, hforgotten⟩ :=
      hdisowned before move after hsplit o bytes m hmove received decoded hcode
    obtain ⟨first, evicting, second, hfirst, hevicts, _⟩ := hforgotten
    -- an entry that is never dropped leaves nothing to disown
    apply hkept
    exact ⟨first, evicting, second ++ disowning :: later ++ move :: after,
      by rw [hsplit, hearlier, hfirst]; simp, hevicts⟩

def lateAnswer (a b other : Ipv6) (seed first second : Cookie) (drawn : SecretKey) : List Move := [
  .sender ⟨0, .up, .prepare b⟩,
  .receiver ⟨0, .up, .inspect a (some seed)⟩,
  .sender ⟨0, .up, .handleDatagram b (Message.setCookie 6 seed first).encode⟩,
  .receiver ⟨0, .up, .rotate drawn⟩,
  .sender ⟨0, .up, .prepare b⟩,
  .receiver ⟨0, .up, .inspect a (some first)⟩,
  .sender ⟨0, .up, .prepare other⟩,
  .sender ⟨0, .up, .handleDatagram b (Message.setCookie 6 first second).encode⟩]

def disowned (a : Ipv6) (cookie : Cookie) : Occasion :=
  ⟨0, .up, .handleDatagram a (Message.notExpected cookie).encode⟩

theorem engine_run_lateAnswer (w : Conversation) (other : Ipv6) (seed first second : Cookie)
    (drawn : SecretKey)
    : (w.run a b (lateAnswer a b other seed first second drawn)).receiver.engine
        =
      w.receiver.engine.rotate drawn := by
  simp only [lateAnswer, run_cons, run_nil, engine_receiver_step]

theorem along_lateAnswer {P : Engine → Engine → Prop} {other : Ipv6} {seed first second : Cookie}
    {drawn : SecretKey} (hbefore : P w.sender.engine w.receiver.engine)
    (hafter : P w.sender.engine (w.receiver.engine.rotate drawn))
    : Along (step a b) (fun w _ => P w.sender.engine w.receiver.engine) w
        (lateAnswer a b other seed first second drawn ++ [.receiver (disowned a first)]) := by
  simp only [lateAnswer, disowned, List.cons_append, List.nil_append, Along, engine_sender_step,
    engine_receiver_step, hbefore, hafter, and_self]

theorem alarms_disowned (w : Conversation) (other : Ipv6) (seed second : Cookie) (drawn : SecretKey)
    {first : Cookie} (hfirst : w.receiver.engine.currentCookie a = first)
    : Alarms a (w.run a b (lateAnswer a b other seed first second drawn)).receiver (disowned a first)
        first.render := by
  rw [alarms_iff]
  refine ⟨_, _, rfl, Message.decode_encode_notExpected first, rfl, ?_, rfl⟩
  rw [engine_run_lateAnswer, ← hfirst]
  apply Engine.verify_rotate_currentCookie

def smallTables : Conversation :=
  initial default default { cache := ⟨1⟩ } { cache := ⟨1⟩ }
    ⟨.uniform 1, .uniform 2, 0⟩ ⟨.uniform 3, .uniform 4, 0⟩

def firstCookie : Cookie := .compute (.uniform 3) (.ofGroups [1])

def smallLateAnswer : List Move :=
  lateAnswer (.ofGroups [1]) (.ofGroups [2]) (.ofGroups [3]) (.compute (.uniform 1) (.ofGroups [2]))
    firstCookie (.compute (.uniform 5) (.ofGroups [1])) (.uniform 5)

theorem genuine_smallLateAnswer
    : Along (step (.ofGroups [1]) (.ofGroups [2])) (Genuine (.ofGroups [1]) (.ofGroups [2])) smallTables
        (smallLateAnswer ++ [.receiver (disowned (.ofGroups [1]) firstCookie)]) := by
  decide +kernel

theorem alarms_iff_disownedOwn_lateAnswer
    : Along (step (.ofGroups [1]) (.ofGroups [2])) (Genuine (.ofGroups [1]) (.ofGroups [2])) smallTables
        (smallLateAnswer ++ [.receiver (disowned (.ofGroups [1]) firstCookie)]) ∧
      DisownedOwn (.ofGroups [1]) (.ofGroups [2]) smallTables firstCookie smallLateAnswer := by
  refine ⟨genuine_smallLateAnswer, ?_⟩
  obtain ⟨bytes, m, received, decoded, _, _, _, hdisowned⟩ :=
    ((alarms_iff_disownedOwn (.ofGroups [1]) (.ofGroups [2]) _ _ _ _ _ _ _ genuine_smallLateAnswer).1
      smallLateAnswer _ [] rfl _ firstCookie.render rfl).1 (alarms_disowned _ _ _ _ _ rfl)
  injection received with _ hbytes
  rw [← hbytes, Message.decode_encode_notExpected] at decoded
  injection decoded with hm
  rw [← hm] at hdisowned
  exact hdisowned

theorem alarms_of_lateAnswer
    : Config.validate { cache := ⟨1⟩ } = .ok () ∧
      (.ofGroups [1] : Ipv6) ≠ .ofGroups [2] ∧
      Along (step (.ofGroups [1]) (.ofGroups [2])) (Genuine (.ofGroups [1]) (.ofGroups [2])) smallTables
        (smallLateAnswer ++ [.receiver (disowned (.ofGroups [1]) firstCookie)]) ∧
      Along (step (.ofGroups [1]) (.ofGroups [2]))
        (fun w _ =>
          w.receiver.engine.verify (w.sender.engine.currentCookie (.ofGroups [2])) (.ofGroups [1])
            =
          false)
        smallTables (smallLateAnswer ++ [.receiver (disowned (.ofGroups [1]) firstCookie)]) ∧
      ¬ Throughout (fun before move => ∀ o text, move = .receiver o →
          ¬ Alarms (.ofGroups [1]) (smallTables.run (.ofGroups [1]) (.ofGroups [2]) before).receiver o text)
        (smallLateAnswer ++ [.receiver (disowned (.ofGroups [1]) firstCookie)]) := by
  refine ⟨by decide, by decide, genuine_smallLateAnswer, ?_, ?_⟩
  . have hbefore : smallTables.receiver.engine.verify
        (smallTables.sender.engine.currentCookie (.ofGroups [2])) (.ofGroups [1])
        =
      false := by
      decide +kernel
    have hafter : (smallTables.receiver.engine.rotate (.uniform 5)).verify
        (smallTables.sender.engine.currentCookie (.ofGroups [2])) (.ofGroups [1])
        =
      false := by
      decide +kernel
    exact along_lateAnswer
      (P := fun e e' => e'.verify (e.currentCookie (.ofGroups [2])) (.ofGroups [1]) = false)
      hbefore hafter
  . intro hsilent
    exact hsilent smallLateAnswer _ [] rfl _ firstCookie.render rfl (alarms_disowned _ _ _ _ _ rfl)

end Conversation

end SourceCookie

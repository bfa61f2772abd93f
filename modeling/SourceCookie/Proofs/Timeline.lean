import SourceCookie.Proofs.Config
import SourceCookie.Proofs.Exchange

/-!
A path without delay or loss, and a receiver that rotates its keys on schedule. The receiver does not answer
a datagram that carries its current cookie. So a sender whose entry comes due while the cookie is still
current waits for an answer that nobody owes it, and falls back although nothing was lost. That is the only
way to fall back on such a path, and it is closed if cookies outlast the receiver's keys.
-/

namespace SourceCookie

namespace Entry

variable {e e' : Entry} {now : Timestamp} {timing : Timing} {t : Transition} {recover n : Nat}

def Overdue (e : Entry) (recover n : Nat) : Prop :=
  e.disableCookies = false ∧ e.expectingSetCookie = true ∧
    ∃ seconds, e.lifetime.seconds? = some seconds ∧ e.mtime.toNat + seconds + recover ≤ n

theorem evaluate_eq_fallbackEntered_iff (hnow : now.toNat < Timestamp.last)
    : (e.evaluate now timing).1 = .fallbackEntered ↔ e.Overdue timing.recover.toNat now.toNat := by
  unfold Overdue
  constructor
  . intro hfell
    have hevaluation := e.evaluation now timing
    rw [hfell] at hevaluation
    generalize (e.evaluate now timing).2 = e' at hevaluation
    cases hevaluation with
    | fellBack past enabled awaiting => exact ⟨enabled, awaiting, due_le_of_band_eq hnow past⟩
  . rintro ⟨enabled, awaiting, seconds, hseconds, hle⟩
    have past : e.band now timing.recover = .pastRenewTime := by
      apply band_eq_pastRenewTime_of_le hseconds
      omega
    unfold evaluate
    simp only [past, enabled, awaiting]

theorem Evaluation.overdue_iff (h : e.Evaluation now timing t e') (hnow : now.toNat < Timestamp.last)
    (hretry : timing.retryLog2 < Lifetime.infiniteLog2)
    (hwaits : e.disableCookies = true → e.expectingSetCookie = true)
    : e'.Overdue recover n
        ↔
      e'.disableCookies = false ∧
        (t = .renewalArmed ∧ now.toNat + recover ≤ n ∨
          t = .retryCookies ∧ now.toNat + 2 ^ timing.retryLog2.toNat + recover ≤ n ∨
          e.Overdue recover n) := by
  unfold Overdue
  cases h with
  | unchanged =>
    simp only [reduceCtorEq, false_and, false_or]
    tauto
  | retried due disabled =>
    simp [setDisable, touch, setLifetime, disabled, hwaits disabled, Lifetime.seconds?_ofByte hretry]
  | armed due enabled idle =>
    obtain ⟨seconds, hseconds, hle⟩ := (due_of_band_ne due).mtime_add_le hnow
    have hstart : now.toNat - seconds + seconds = now.toNat := by omega
    simp [setExpecting, backdate, enabled, idle, hseconds, hstart]
  | fellBack => simp [setDisable, touch, setLifetime]

end Entry

structure Timeline extends Pair where
  clock : Timestamp
  rotated : Timestamp

namespace Timeline

inductive Event where
  | datagram (now : Timestamp) (link : Link)
  | sender (o : Occasion)
  | receiver (o : Occasion)

def Event.time : Event → Timestamp
  | datagram now _ => now
  | sender o => o.now
  | receiver o => o.now

def initial (id id' : Uuid) (c c' : Config) (engine engine' : Engine) (start : Timestamp) : Timeline :=
  ⟨⟨.create id c engine, .create id' c' engine'⟩, start, start⟩

variable (a b : Ipv6)

def step (w : Timeline) : Event → Timeline
  | .datagram now link =>
    { w with toPair := w.afterExchange a b ⟨now, [], now, link⟩, clock := now }
  | .sender o => { w with sender := w.sender.next o, clock := o.now }
  | .receiver o =>
    { w with
      receiver := w.receiver.next o
      clock := o.now
      rotated := match o.operation with
        | .rotate _ => o.now
        | _ => w.rotated }

def run (w : Timeline) (events : List Event) : Timeline := events.foldl (step a b) w

def decision (w : Timeline) (now : Timestamp) : SendDecision := (w.sender.prepare b now).answer

/-- What an event is besides its time: a datagram that is not taken for one with a cookie of the receiver
by accident, an operation of the sender on other peers, or one of the receiver, which rotates its keys when
they are `interval` seconds old. -/
def Orderly (interval : Nat) (w : Timeline) : Event → Prop
  | .datagram _ _ =>
    w.sender.cache.lookup? b = none →
      w.receiver.engine.check (w.sender.engine.currentCookie b) a = .invalid
  | .sender o => o.operation ≠ .prepare b ∧ ¬ w.sender.TakesCookie b o
  | .receiver o => ∀ drawn, o.operation = .rotate drawn → o.now.toNat = w.rotated.toNat + interval

/-- The clock never goes back or ends, and the receiver's keys never get older than `interval` seconds. -/
def Timely (interval : Nat) (w : Timeline) (event : Event) : Prop :=
  w.clock ≤ event.time ∧ event.time.toNat < Timestamp.last ∧
    event.time.toNat ≤ w.rotated.toNat + interval ∧ w.Orderly a b interval event

/-- By the time `n`, the event is a datagram whose answer is overdue; and there is none, as the datagram
carries the receiver's current cookie. -/
def Unanswered (timing : Timing) (n : Nat) (w : Timeline) : Event → Prop
  | .datagram now _ =>
    w.decision b now = ⟨.renewalArmed, .withCookie (w.receiver.engine.currentCookie a)⟩ ∧
        now.toNat + timing.recover.toNat ≤ n ∨
      w.decision b now = ⟨.retryCookies, .withCookie (w.receiver.engine.currentCookie a)⟩ ∧
        now.toNat + 2 ^ timing.retryLog2.toNat + timing.recover.toNat ≤ n
  | _ => False

def Silent (w : Timeline) (event : Event) : Prop :=
  ((w.step a b event).sender.cache.lookup? b).isSome ∧
    ∀ now link, event = .datagram now link →
      (w.decision b now).outbound = .withCookie (w.receiver.engine.currentCookie a)

def Within (lifetime : Nat) (w : Timeline) : Event → Prop
  | .datagram now _ => now.toNat < w.rotated.toNat + lifetime
  | _ => True

def Fresh (w : Timeline) : Event → Prop
  | .receiver o => ∀ drawn e, o.operation = .rotate drawn → w.sender.cache.lookup? b = some e →
    Cookie.compute drawn a ≠ e.cookie
  | _ => True

variable {a b} {w : Timeline} {c c' : Config} {interval n : Nat} {now : Timestamp} {link : Link}
  {event : Event} {events : List Event} {o : Occasion}

structure Sound (b : Ipv6) (c c' : Config) (w : Timeline) : Prop where
  table : w.sender.cache.WellFormed
  sender : w.sender.settings = .ofConfig c
  receiver : w.receiver.settings = .ofConfig c'
  waits : ∀ e, w.sender.cache.lookup? b = some e → e.disableCookies = true →
    e.expectingSetCookie = true
  rotated : w.rotated ≤ w.clock

def afterAnswer (a : Ipv6) (n : Node) (now : Timestamp) (e : Entry) : Entry :=
  if e.disableCookies = true ∨ n.engine.currentCookie a = e.cookie then e
  else e.accept (n.offer a e.cookie) now

inductive Answered (a : Ipv6) (w : Timeline) (now : Timestamp)
    : Option Entry → SendDecision → Option Entry → Prop where
  | created {e : Entry} (enabled : e.disableCookies = false)
    : Answered a w now none ⟨.created false, e.outbound⟩
        (some (e.accept (w.receiver.offer a e.cookie) now))
  | evaluated {e e' : Entry} {t : Transition} (evaluation : e.Evaluation now w.sender.settings.timing t e')
    : Answered a w now (some e) ⟨t, e'.outbound⟩ (some (afterAnswer a w.receiver now e'))

theorem answered (h : w.sender.cache.WellFormed) (hpolicy : w.sender.policyDisables b = false)
    (horderly : w.Orderly a b interval (.datagram now link))
    : Answered a w now (w.sender.cache.lookup? b) (w.decision b now)
        ((w.step a b (.datagram now link)).sender.cache.lookup? b) := by
  have hafter : ∀ e, (w.sender.prepare b now).node.cache.lookup? b = some e →
      (w.decision b now).outbound = e.outbound →
      (w.step a b (.datagram now link)).sender.cache.lookup? b
        =
      some (afterAnswer a w.receiver now e) := by
    intro e he houtbound
    rw [afterAnswer, apply_ite some]
    exact Pair.lookup?_afterExchange_of_prepare (x := ⟨now, [], now, link⟩) he houtbound
  cases hlookup : w.sender.cache.lookup? b with
  | none =>
    have hdecision := (Node.prepare_of_lookup?_eq_none h hlookup now).1
    have hentry := Node.lookup?_prepare_of_lookup?_eq_none h hlookup now
    rw [hpolicy] at hdecision hentry
    -- a new entry has a cookie of the sender's own, which always has an answer
    have hother : w.receiver.engine.currentCookie a ≠ w.sender.engine.currentCookie b := by
      intro hcurrent
      have hinvalid := horderly hlookup
      rw [← hcurrent] at hinvalid
      simp [Engine.check, Engine.currentCookie] at hinvalid
    rw [hafter _ hentry (by rw [decision, hdecision]), decision, hdecision]
    unfold afterAnswer
    rw [if_neg (by simp [Entry.fresh, hother])]
    exact .created rfl
  | some e =>
    have hdecision := (Node.prepare_of_lookup?_eq_some hlookup now).1
    have hentry := Node.lookup?_prepare_of_lookup?_eq_some hlookup now
    rw [hafter _ hentry (by rw [decision, hdecision]), decision, hdecision]
    exact .evaluated (e.evaluation now w.sender.settings.timing)

theorem settings_datagram (a b : Ipv6) (w : Timeline) (now : Timestamp) (link : Link)
    : (w.step a b (.datagram now link)).sender.settings = w.sender.settings := by
  obtain ⟨cache, reports, hsender⟩ := w.afterExchange_eq_update a b ⟨now, [], now, link⟩
  unfold step
  simp only [hsender]

theorem engine_datagram (a b : Ipv6) (w : Timeline) (now : Timestamp) (link : Link)
    : (w.step a b (.datagram now link)).sender.engine = w.sender.engine := by
  obtain ⟨cache, reports, hsender⟩ := w.afterExchange_eq_update a b ⟨now, [], now, link⟩
  unfold step
  simp only [hsender]

theorem receiver_step_cases (a b : Ipv6) (w : Timeline) (o : Occasion)
    : (∃ drawn, o.operation = .rotate drawn ∧
        (w.step a b (.receiver o)).receiver.engine = w.receiver.engine.rotate drawn ∧
        (w.step a b (.receiver o)).rotated = o.now) ∨
      ((w.step a b (.receiver o)).receiver.engine = w.receiver.engine ∧
        (w.step a b (.receiver o)).rotated = w.rotated) := by
  obtain ⟨now, link, operation⟩ := o
  have hengine := w.receiver.engine_step ⟨now, link, operation⟩
  cases operation with
  | rotate drawn => exact Or.inl ⟨drawn, rfl, hengine, rfl⟩
  | _ => exact Or.inr ⟨hengine, rfl⟩

theorem lookup?_sender (h : w.sender.cache.WellFormed) (horderly : w.Orderly a b interval (.sender o))
    : (w.sender.next o).cache.lookup? b = w.sender.cache.lookup? b ∨
        (w.sender.next o).cache.lookup? b = none := by
  obtain ⟨notAsked, notTaken⟩ := horderly
  have hstep := Node.entryStep h b o
  generalize w.sender.cache.lookup? b = before at hstep
  generalize (w.sender.next o).cache.lookup? b = after at hstep
  cases hstep with
  | created asked => exact absurd asked notAsked
  | evaluated asked => exact absurd asked notAsked
  | updated _ _ _ _ takes => exact absurd takes notTaken
  | evicted => exact Or.inr rfl
  | kept => exact Or.inl rfl

theorem disableCookies_afterAnswer (a : Ipv6) (m : Node) (now : Timestamp) (e : Entry)
    : (afterAnswer a m now e).disableCookies = e.disableCookies := by
  unfold afterAnswer
  split <;> rfl

theorem afterAnswer_of_disabled {e : Entry} (hdisabled : e.disableCookies = true) (m : Node)
    : afterAnswer a m now e = e := by
  unfold afterAnswer
  simp [hdisabled]

theorem overdue_afterAnswer_iff {m : Node} {e : Entry} {recover : Nat}
    : (afterAnswer a m now e).Overdue recover n
        ↔
      e.Overdue recover n ∧ e.outbound = .withCookie (m.engine.currentCookie a) := by
  unfold afterAnswer Entry.outbound
  by_cases hdisabled : e.disableCookies = true
  . simp [hdisabled, Entry.Overdue]
  . by_cases hcurrent : m.engine.currentCookie a = e.cookie
    . simp [hdisabled, hcurrent]
    . simp [hdisabled, hcurrent, Ne.symm hcurrent, Entry.Overdue, Entry.accept, Entry.setExpecting]

namespace Sound

theorem initial (id id' : Uuid) (c c' : Config) (engine engine' : Engine) (start : Timestamp)
    : Sound b c c' (initial id id' c c' engine engine' start) where
  table := Node.wellFormed_create id c engine
  sender := rfl
  receiver := rfl
  waits := by simp [Timeline.initial]
  rotated := by simp [Timeline.initial]

theorem waits_of_answered (h : Sound b c c' w) {before after : Option Entry} {d : SendDecision}
    (hbefore : w.sender.cache.lookup? b = before) (hanswered : Answered a w now before d after) {e : Entry}
    (he : after = some e) (hdisabled : e.disableCookies = true)
    : e.expectingSetCookie = true := by
  cases hanswered with
  | @created fresh enabled =>
    injection he with he
    rw [← he] at hdisabled
    have haccept : (fresh.accept (w.receiver.offer a fresh.cookie) now).disableCookies
        =
      fresh.disableCookies := rfl
    rw [haccept, enabled] at hdisabled
    contradiction
  | evaluated evaluation =>
    injection he with he
    rw [← he, disableCookies_afterAnswer] at hdisabled
    rw [← he, afterAnswer_of_disabled hdisabled]
    cases evaluation with
    | unchanged => exact h.waits _ hbefore hdisabled
    | retried => simp [Entry.setDisable, Entry.touch, Entry.setLifetime] at hdisabled
    | armed => rfl
    | fellBack _ _ awaiting => exact awaiting

theorem step (h : Sound b c c' w) (hpolicy : (Settings.ofConfig c).policyDisables b = false)
    (htimely : w.Timely a b interval event)
    : Sound b c c' (w.step a b event) := by
  obtain ⟨hclock, _, _, horderly⟩ := htimely
  rw [← h.sender] at hpolicy
  cases event with
  | datagram now link =>
    constructor
    . exact Pair.wellFormed_step (a := a) h.table (.exchange ⟨now, [], now, link⟩)
    . exact (settings_datagram a b w now link).trans h.sender
    . exact h.receiver
    . intro e he
      exact h.waits_of_answered rfl (answered h.table hpolicy horderly) he
    . exact UInt64.le_trans h.rotated hclock
  | sender o =>
    constructor
    . exact Node.wellFormed_step h.table o
    . exact (w.sender.settings_step o).trans h.sender
    . exact h.receiver
    . intro e he
      rcases lookup?_sender h.table horderly with hkept | hevicted
      . exact h.waits e (hkept.symm.trans he)
      . exact absurd (hevicted.symm.trans he) (by simp)
    . exact UInt64.le_trans h.rotated hclock
  | receiver o =>
    constructor
    . exact h.table
    . exact h.sender
    . exact (w.receiver.settings_step o).trans h.receiver
    . exact h.waits
    . unfold Timeline.step
      simp only
      split
      . exact UInt64.le_refl _
      . exact UInt64.le_trans h.rotated hclock

end Sound

theorem overdue_step (h : Sound b c c' w) (hpolicy : (Settings.ofConfig c).policyDisables b = false)
    (hretry : (Settings.ofConfig c).timing.retryLog2 < Lifetime.infiniteLog2)
    (htimely : w.Timely a b interval event)
    : (∃ e, (w.step a b event).sender.cache.lookup? b = some e ∧
        e.Overdue (Settings.ofConfig c).timing.recover.toNat n)
        ↔
      w.Unanswered a b (Settings.ofConfig c).timing n event ∨
        ((∃ e, w.sender.cache.lookup? b = some e ∧
          e.Overdue (Settings.ofConfig c).timing.recover.toNat n) ∧ w.Silent a b event) := by
  obtain ⟨_, hlast, _, horderly⟩ := htimely
  have hheld : ∀ x : Option Entry, (∃ e, x = some e ∧ e.Overdue (Settings.ofConfig c).timing.recover.toNat n)
      → x.isSome = true := by
    rintro x ⟨e, he, _⟩
    simp [he]
  cases event with
  | datagram now link =>
    rw [← h.sender] at hpolicy hretry ⊢
    have hanswered := answered h.table hpolicy horderly
    have hwaits := h.waits
    unfold Unanswered Silent
    simp only [Event.datagram.injEq, and_imp, forall_apply_eq_imp_iff, forall_eq']
    generalize w.sender.cache.lookup? b = before at hanswered hwaits
    generalize (w.step a b (.datagram now link)).sender.cache.lookup? b = after at hanswered
    generalize w.decision b now = d at hanswered
    cases hanswered with
    | created enabled => simp [Entry.Overdue, Entry.accept, Entry.setExpecting]
    | @evaluated e e' t evaluation =>
      -- one that carries a cookie does not fall back, so it makes the entry wait or finds it as it was
      have henabled : e'.outbound = .withCookie (w.receiver.engine.currentCookie a) →
          e'.disableCookies = false := by
        intro hcarries
        rw [← Bool.not_eq_true, ← Entry.outbound_eq_plain_iff, hcarries]
        simp
      simp only [Option.some.injEq, exists_eq_left', Option.isSome_some, true_and, SendDecision.mk.injEq]
      rw [overdue_afterAnswer_iff, evaluation.overdue_iff hlast hretry (hwaits e rfl)]
      tauto
  | sender o =>
    unfold Unanswered Silent step
    simp only [false_or, reduceCtorEq, false_implies, implies_true, and_true]
    rcases lookup?_sender h.table horderly with hkept | hevicted
    . rw [hkept]
      exact (and_iff_left_of_imp (hheld _)).symm
    . simp [hevicted]
  | receiver o =>
    unfold Unanswered Silent step
    simp only [false_or, reduceCtorEq, false_implies, implies_true, and_true]
    exact (and_iff_left_of_imp (hheld _)).symm

theorem run_concat (w : Timeline) (events : List Event) (event : Event)
    : w.run a b (events ++ [event]) = (w.run a b events).step a b event := by
  unfold run
  rw [List.foldl_append]
  rfl

theorem sound_run (h : Sound b c c' w) (hpolicy : (Settings.ofConfig c).policyDisables b = false)
    (htimely : Along (step a b) (Timely a b interval) w events)
    : Sound b c c' (w.run a b events) := by
  induction events using List.reverseRecOn with
  | nil => exact h
  | append_singleton events event ih =>
    rw [along_concat] at htimely
    rw [run_concat]
    exact (ih htimely.1).step hpolicy htimely.2

theorem overdue_iff_unanswered (h : Sound b c c' w) (hnone : w.sender.cache.lookup? b = none)
    (hpolicy : (Settings.ofConfig c).policyDisables b = false)
    (hretry : (Settings.ofConfig c).timing.retryLog2 < Lifetime.infiniteLog2)
    (htimely : Along (step a b) (Timely a b interval) w events)
    : (∃ e, (w.run a b events).sender.cache.lookup? b = some e ∧
        e.Overdue (Settings.ofConfig c).timing.recover.toNat n)
        ↔
      Since (step a b) (Unanswered a b (Settings.ofConfig c).timing n) (Silent a b) w events := by
  -- `Since` asks of the last event just what a step does to an entry that is overdue
  induction events using List.reverseRecOn with
  | nil => simp [run, hnone, not_since_nil]
  | append_singleton events event ih =>
    rw [along_concat] at htimely
    rw [run_concat, since_concat, ← ih htimely.1]
    exact overdue_step (sound_run h hpolicy htimely.1) hpolicy hretry htimely.2

theorem transition_eq_fallbackEntered_iff (h : Sound b c c' w) (hlast : now.toNat < Timestamp.last)
    : (w.decision b now).transition = .fallbackEntered
        ↔
      ∃ e, w.sender.cache.lookup? b = some e ∧
        e.Overdue (Settings.ofConfig c).timing.recover.toNat now.toNat := by
  rw [← h.sender]
  unfold decision
  cases hlookup : w.sender.cache.lookup? b with
  | none => simp [Node.prepare_of_lookup?_eq_none h.table hlookup now]
  | some e =>
    simp only [(Node.prepare_of_lookup?_eq_some hlookup now).1, Option.some.injEq, exists_eq_left']
    exact Entry.evaluate_eq_fallbackEntered_iff hlast

theorem seconds?_accept_offer {m : Node} (hoffered : m.settings.offeredLog2 < Lifetime.infiniteLog2)
    (e : Entry) (cookie : Cookie) (now : Timestamp)
    : (e.accept (m.offer a cookie) now).lifetime.seconds? = some (2 ^ m.settings.offeredLog2.toNat) := by
  have hlt := Lifetime.toNat_lt_of_lt_infiniteLog2 hoffered
  have hlog : (m.offer a cookie).lifetimeLog2.toNat = m.settings.offeredLog2.toNat := by
    have hmask : Message.lifetimeMask.toNat = 2 ^ 4 - 1 := rfl
    simp only [Node.offer, Message.setCookie, UInt8.toNat_and, hmask, Nat.and_two_pow_sub_one_eq_mod]
    omega
  have htoNat := e.toNat_lifetime_accept (m := m.offer a cookie) (by omega) now
  rw [if_neg (by omega), hlog] at htoNat
  rw [Lifetime.seconds?_of_ne_infinite, htoNat]
  rw [ne_eq, Lifetime.eq_infinite_iff]
  omega

structure UpToDate (a : Ipv6) (lifetime : Nat) (w : Timeline) (e : Entry) : Prop where
  enabled : e.disableCookies = false
  idle : e.expectingSetCookie = false
  lifetime : e.lifetime.seconds? = some lifetime
  recent : e.cookie = w.receiver.engine.currentCookie a → w.rotated ≤ e.mtime

theorem upToDate_accept (h : Sound b c c' w)
    (hoffered : c'.protocol.setcookieLifetimeLog2 < Lifetime.infiniteLog2) (hrotated : w.rotated ≤ now)
    {e : Entry} (henabled : e.disableCookies = false)
    : w.UpToDate a (2 ^ c'.protocol.setcookieLifetimeLog2.toNat)
        (e.accept (w.receiver.offer a e.cookie) now) where
  enabled := henabled
  idle := rfl
  lifetime := by
    have hsettings : w.receiver.settings.offeredLog2 = c'.protocol.setcookieLifetimeLog2 := by
      rw [h.receiver]
      rfl
    rw [← hsettings] at hoffered ⊢
    exact seconds?_accept_offer hoffered e e.cookie now
  recent := fun _ => hrotated

theorem upToDate_of_answered (h : Sound b c c' w)
    (hoffered : c'.protocol.setcookieLifetimeLog2 < Lifetime.infiniteLog2)
    (hlast : now.toNat < Timestamp.last) (hrotated : w.rotated ≤ now)
    (hwithin : now.toNat < w.rotated.toNat + 2 ^ c'.protocol.setcookieLifetimeLog2.toNat)
    {before after : Option Entry} {d : SendDecision}
    (hbefore : ∀ e, before = some e → w.UpToDate a (2 ^ c'.protocol.setcookieLifetimeLog2.toNat) e)
    (hanswered : Answered a w now before d after)
    : ∀ e, after = some e → w.UpToDate a (2 ^ c'.protocol.setcookieLifetimeLog2.toNat) e := by
  intro e he
  cases hanswered with
  | created enabled =>
    injection he with he
    rw [← he]
    exact upToDate_accept h hoffered hrotated enabled
  | @evaluated e0 e' t evaluation =>
    injection he with he
    have h0 := hbefore e0 rfl
    rw [← he, afterAnswer]
    cases evaluation with
    | unchanged =>
      split
      . exact h0
      . exact upToDate_accept h hoffered hrotated h0.enabled
    | retried _ disabled => simp [h0.enabled] at disabled
    | fellBack _ _ awaiting => simp [h0.idle] at awaiting
    | armed due enabled =>
      -- a cookie that is still current has not come due
      have hother : w.receiver.engine.currentCookie a ≠ e0.cookie := by
        intro hcurrent
        obtain ⟨seconds, hseconds, hle⟩ := (Entry.due_of_band_ne due).mtime_add_le hlast
        rw [h0.lifetime] at hseconds
        injection hseconds with hseconds
        have hmtime := UInt64.le_iff_toNat_le.1 (h0.recent hcurrent.symm)
        omega
      rw [if_neg (by simp [Entry.setExpecting, Entry.backdate, enabled, hother])]
      exact upToDate_accept h hoffered hrotated enabled

theorem upToDate_step (h : Sound b c c' w)
    (hoffered : c'.protocol.setcookieLifetimeLog2 < Lifetime.infiniteLog2)
    (hpolicy : (Settings.ofConfig c).policyDisables b = false)
    (htimely : w.Timely a b interval event) (hfresh : w.Fresh a b event)
    (hwithin : w.Within (2 ^ c'.protocol.setcookieLifetimeLog2.toNat) event)
    (hbefore : ∀ e, w.sender.cache.lookup? b = some e →
      w.UpToDate a (2 ^ c'.protocol.setcookieLifetimeLog2.toNat) e)
    : ∀ e, (w.step a b event).sender.cache.lookup? b = some e →
        (w.step a b event).UpToDate a (2 ^ c'.protocol.setcookieLifetimeLog2.toNat) e := by
  obtain ⟨hclock, hlast, _, horderly⟩ := htimely
  intro e he
  cases event with
  | datagram now link =>
    rw [← h.sender] at hpolicy
    have hrotated := UInt64.le_trans h.rotated hclock
    have hafter := upToDate_of_answered h hoffered hlast hrotated hwithin hbefore
      (answered h.table hpolicy horderly) e he
    exact ⟨hafter.enabled, hafter.idle, hafter.lifetime, hafter.recent⟩
  | sender o =>
    rcases lookup?_sender h.table horderly with hkept | hevicted
    . have hkept := hbefore e (hkept.symm.trans he)
      exact ⟨hkept.enabled, hkept.idle, hkept.lifetime, hkept.recent⟩
    . exact absurd (hevicted.symm.trans he) (by simp)
  | receiver o =>
    have hkept := hbefore e he
    refine ⟨hkept.enabled, hkept.idle, hkept.lifetime, ?_⟩
    intro hcurrent
    rcases receiver_step_cases a b w o with ⟨drawn, hrotates, hengine, _⟩ | ⟨hengine, hrotated⟩
    -- the new key does not give the entry's cookie
    . rw [hengine] at hcurrent
      exact absurd hcurrent.symm (hfresh drawn e hrotates he)
    . rw [hengine] at hcurrent
      rw [hrotated]
      exact hkept.recent hcurrent

theorem not_fallbackEntered_of_upToDate (h : Sound b c c' w) (hlast : now.toNat < Timestamp.last)
    {lifetime : Nat} (hentry : ∀ e, w.sender.cache.lookup? b = some e → w.UpToDate a lifetime e)
    : (w.decision b now).transition ≠ .fallbackEntered := by
  rw [ne_eq, transition_eq_fallbackEntered_iff h hlast]
  rintro ⟨e, he, _, awaiting, _⟩
  simp [(hentry e he).idle] at awaiting

theorem not_fallbackEntered_run (h : Sound b c c' w) (hnone : w.sender.cache.lookup? b = none)
    (hoffered : c'.protocol.setcookieLifetimeLog2 < Lifetime.infiniteLog2)
    (hpolicy : (Settings.ofConfig c).policyDisables b = false)
    (htimely : Along (step a b) (Timely a b interval) w events)
    (hfresh : Along (step a b) (Fresh a b) w events)
    (hwithin : Along (step a b) (Within (2 ^ c'.protocol.setcookieLifetimeLog2.toNat)) w events)
    : Along (step a b)
        (fun v event => ∀ now link, event = .datagram now link →
          (v.decision b now).transition ≠ .fallbackEntered)
        w events ∧
      ∀ e, (w.run a b events).sender.cache.lookup? b = some e →
        (w.run a b events).UpToDate a (2 ^ c'.protocol.setcookieLifetimeLog2.toNat) e := by
  induction events using List.reverseRecOn with
  | nil => simp [Along, run, hnone]
  | append_singleton events event ih =>
    rw [along_concat] at htimely hfresh hwithin
    obtain ⟨hkeeps, hentry⟩ := ih htimely.1 hfresh.1 hwithin.1
    have hsound := sound_run h hpolicy htimely.1
    rw [along_concat, run_concat]
    refine ⟨⟨hkeeps, ?_⟩, ?_⟩
    . rintro now link rfl
      exact not_fallbackEntered_of_upToDate hsound htimely.2.2.1 hentry
    . exact upToDate_step hsound hoffered hpolicy htimely.2 hfresh.2 hwithin.2 hentry

/-- On a path without delay and loss, a datagram enters fallback just if an earlier one made the entry wait
and no datagram since was answered, all of them with a cookie that the receiver takes for current. None
enters fallback if the receiver's keys do not get as old as its cookies, and no key gives a cookie of an
older one. -/
theorem fallbackEntered_iff_unanswered (a b : Ipv6) (id id' : Uuid) (c c' : Config)
    (engine engine' : Engine) (start : Timestamp) (hvalid : c.validate = .ok ())
    (hvalid' : c'.validate = .ok ()) (hpolicy : (Node.create id c engine).policyDisables b = false)
    {w : Timeline} (hstart : initial id id' c c' engine engine' start = w) (events : List Event)
    (htimely : Along (step a b) (Timely a b c'.rotation.intervalSeconds.toNat) w events)
    : Throughout (fun before event => ∀ now link, event = .datagram now link →
        (((w.run a b before).decision b now).transition = .fallbackEntered
          ↔
        Since (step a b) (Unanswered a b (Settings.ofConfig c).timing now.toNat) (Silent a b) w
          before)) events ∧
      (Along (step a b) (Fresh a b) w events →
        Along (step a b) (Within (2 ^ c'.protocol.setcookieLifetimeLog2.toNat)) w events →
        Along (step a b)
          (fun w event => ∀ now link, event = .datagram now link →
            (w.decision b now).transition ≠ .fallbackEntered)
          w events) ∧
      (c'.rotation.intervalSeconds.toNat < 2 ^ c'.protocol.setcookieLifetimeLog2.toNat →
        Along (step a b) (Within (2 ^ c'.protocol.setcookieLifetimeLog2.toNat)) w events) := by
  have h : Sound b c c' w := by
    rw [← hstart]
    exact Sound.initial id id' c c' engine engine' start
  have hnone : w.sender.cache.lookup? b = none := by
    rw [← hstart]
    simp [initial]
  refine ⟨?_, ?_, ?_⟩
  . intro before event after hsplit now link hevent
    rw [hsplit, hevent, along_append] at htimely
    obtain ⟨hbefore, ⟨_, hlast, _⟩, _⟩ := htimely
    rw [← overdue_iff_unanswered h hnone hpolicy (Config.value_lt_of_validate hvalid .retry) hbefore]
    exact transition_eq_fallbackEntered_iff (sound_run h hpolicy hbefore) hlast
  . intro hfresh hwithin
    have hoffered := Config.value_lt_of_validate hvalid' .offered
    exact (not_fallbackEntered_run h hnone hoffered hpolicy htimely hfresh hwithin).1
  . intro hlasting
    apply htimely.imp
    rintro v event ⟨_, _, hle, _⟩
    cases event with
    | datagram now link => exact Nat.lt_of_le_of_lt hle (Nat.add_lt_add_left hlasting _)
    | sender o => trivial
    | receiver o => trivial

def halfLife : Config where
  cache := ⟨1⟩
  protocol := { setcookieLifetimeLog2 := 5 }

def halfLived : Timeline :=
  initial default default { cache := ⟨1⟩ } halfLife ⟨.uniform 1, .uniform 2, 0⟩ ⟨.uniform 3, .uniform 4, 0⟩ 0

def untilDue : List Event := [.datagram 0 .up, .datagram 32 .up]

theorem timely_untilDue
    : Along (step (.ofGroups [1]) (.ofGroups [2]))
        (Timely (.ofGroups [1]) (.ofGroups [2]) halfLife.rotation.intervalSeconds.toNat) halfLived
        (untilDue ++ [.datagram 35 .up]) := by
  have hseed : halfLived.receiver.engine.check (halfLived.sender.engine.currentCookie (.ofGroups [2]))
      (.ofGroups [1])
      =
    .invalid := by
    decide +kernel
  refine ⟨?_, ?_, ?_, trivial⟩
  . exact ⟨by decide, by decide, by decide, fun _ => hseed⟩
  . refine ⟨by decide, by decide, by decide, fun _ => ?_⟩
    rw [engine_datagram]
    exact hseed
  . refine ⟨by decide, by decide, by decide, fun _ => ?_⟩
    rw [engine_datagram, engine_datagram]
    exact hseed

theorem fallbackEntered_untilDue
    : ((halfLived.run (.ofGroups [1]) (.ofGroups [2]) untilDue).decision (.ofGroups [2]) 35).transition
        =
      .fallbackEntered := by
  decide +kernel

theorem fallbackEntered_iff_unanswered_halfLived
    : Config.validate { cache := ⟨1⟩ } = .ok () ∧ halfLife.validate = .ok () ∧
      (Node.create default { cache := ⟨1⟩ } ⟨.uniform 1, .uniform 2, 0⟩).policyDisables (.ofGroups [2])
        =
      false ∧
      Along (step (.ofGroups [1]) (.ofGroups [2]))
        (Timely (.ofGroups [1]) (.ofGroups [2]) halfLife.rotation.intervalSeconds.toNat) halfLived
        (untilDue ++ [.datagram 35 .up]) ∧
      Since (step (.ofGroups [1]) (.ofGroups [2]))
        (Unanswered (.ofGroups [1]) (.ofGroups [2]) (Settings.ofConfig { cache := ⟨1⟩ }).timing 35)
        (Silent (.ofGroups [1]) (.ofGroups [2])) halfLived untilDue := by
  have hvalid : Config.validate { cache := ⟨1⟩ } = .ok () := by decide
  have hvalid' : halfLife.validate = .ok () := by decide
  have hpolicy : (Node.create default { cache := ⟨1⟩ } ⟨.uniform 1, .uniform 2, 0⟩).policyDisables
      (.ofGroups [2])
      =
    false := by
    decide
  have hstart : initial default default { cache := ⟨1⟩ } halfLife ⟨.uniform 1, .uniform 2, 0⟩
      ⟨.uniform 3, .uniform 4, 0⟩ 0
      =
    halfLived :=
    rfl
  have h := fallbackEntered_iff_unanswered (.ofGroups [1]) (.ofGroups [2]) default default
    { cache := ⟨1⟩ } halfLife _ _ 0 hvalid hvalid' hpolicy hstart (untilDue ++ [.datagram 35 .up])
    timely_untilDue
  have hsince := (h.1 untilDue (.datagram 35 .up) [] rfl 35 .up rfl).1 fallbackEntered_untilDue
  exact ⟨hvalid, hvalid', hpolicy, timely_untilDue, hsince⟩

theorem fallbackEntered_of_currentCookie
    : Config.validate { cache := ⟨1⟩ } = .ok () ∧ halfLife.validate = .ok () ∧
      halfLife.rotation.enabled = true ∧
      (Node.create default { cache := ⟨1⟩ } ⟨.uniform 1, .uniform 2, 0⟩).policyDisables (.ofGroups [2])
        =
      false ∧
      (.ofGroups [1] : Ipv6) ≠ .ofGroups [2] ∧
      Along (step (.ofGroups [1]) (.ofGroups [2]))
        (Timely (.ofGroups [1]) (.ofGroups [2]) halfLife.rotation.intervalSeconds.toNat) halfLived
        (untilDue ++ [.datagram 35 .up]) ∧
      ¬ Along (step (.ofGroups [1]) (.ofGroups [2]))
        (fun w event => ∀ now link, event = .datagram now link →
          (w.decision (.ofGroups [2]) now).transition ≠ .fallbackEntered)
        halfLived (untilDue ++ [.datagram 35 .up]) := by
  refine ⟨by decide, by decide, by decide, by decide, by decide, timely_untilDue, ?_⟩
  intro hnone
  rw [along_concat] at hnone
  exact hnone.2 35 .up rfl fallbackEntered_untilDue

end Timeline

end SourceCookie

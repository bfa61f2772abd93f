import SourceCookie.Proofs.Generations
import SourceCookie.Proofs.Node.Step

/-!
What the operations of a node do to the outside: which messages they send, and what they publish. An
operation sends at most one message, its reply, and publishes at most one finding. All else that it does,
such as counting and logging, is no part of either.
-/

namespace SourceCookie

namespace Effect

variable {effects effects' : List Effect}

@[simp]
theorem sent_nil : sent [] = [] := rfl

@[simp]
theorem findings_nil : findings [] = [] := rfl

@[simp]
theorem sent_append : sent (effects ++ effects') = sent effects ++ sent effects' := by
  unfold sent
  apply List.filterMap_append

@[simp]
theorem findings_append : findings (effects ++ effects') = findings effects ++ findings effects' := by
  unfold findings
  apply List.filterMap_append

@[simp]
theorem sent_count (counter : Counter) : sent (.count counter :: effects) = sent effects := rfl

@[simp]
theorem findings_count (counter : Counter) : findings (.count counter :: effects) = findings effects :=
  rfl

@[simp]
theorem sent_log (record : Log.Record) : sent (.log record :: effects) = sent effects := rfl

@[simp]
theorem findings_log (record : Log.Record) : findings (.log record :: effects) = findings effects := rfl

@[simp]
theorem sent_send (destination : Ipv6) (m : Message)
    : sent (.send destination m :: effects) = (destination, m) :: sent effects :=
  rfl

@[simp]
theorem findings_send (destination : Ipv6) (m : Message)
    : findings (.send destination m :: effects) = findings effects :=
  rfl

@[simp]
theorem sent_publish (id : Uuid) (finding : Finding)
    : sent (.publish id finding :: effects) = sent effects :=
  rfl

@[simp]
theorem findings_publish (id : Uuid) (finding : Finding)
    : findings (.publish id finding :: effects) = (id, finding) :: findings effects :=
  rfl

end Effect

open Effect

def Link.carry (link : Link) (destination : Ipv6) (m : Message) : List (Ipv6 × Message) :=
  match link with
  | up => [(destination, m)]
  | down _ => []

theorem Link.carry_eq (link : Link) (destination : Ipv6) (m : Message)
    : link.carry destination m = [] ∨ link.carry destination m = [(destination, m)] := by
  cases link with
  | up => exact Or.inr rfl
  | down => exact Or.inl rfl

@[simp]
theorem Link.sent_transmit (link : Link) (destination : Ipv6) (m : Message)
    : sent (link.transmit destination m).2 = link.carry destination m := by
  cases link <;> rfl

@[simp]
theorem Link.findings_transmit (link : Link) (destination : Ipv6) (m : Message)
    : findings (link.transmit destination m).2 = [] := by
  cases link <;> rfl

@[simp]
theorem Finding.sent_effects (id : Uuid) (finding : Finding) : sent (finding.effects id) = [] := by
  cases finding
  rfl

@[simp]
theorem Finding.findings_effects (id : Uuid) (finding : Finding)
    : findings (finding.effects id) = [(id, finding)] := by
  cases finding
  rfl

@[simp]
theorem Transition.sent_effects (t : Transition) (peer : Ipv6) (lifetime : Lifetime)
    : sent (t.effects peer lifetime) = [] := by
  cases t <;> rfl

@[simp]
theorem Transition.findings_effects (t : Transition) (peer : Ipv6) (lifetime : Lifetime)
    : findings (t.effects peer lifetime) = [] := by
  cases t <;> rfl

@[simp]
theorem Engine.sent_rotationEffects (e : Engine) : sent e.rotationEffects = [] := rfl

@[simp]
theorem Engine.findings_rotationEffects (e : Engine) : findings e.rotationEffects = [] := rfl

namespace Node

variable {n : Node}

@[simp]
theorem sent_tableUse (n : Node) : sent n.tableUse = [] := by
  unfold tableUse
  split <;> rfl

@[simp]
theorem findings_tableUse (n : Node) : findings n.tableUse = [] := by
  unfold tableUse
  split <;> rfl

theorem sent_prepare (n : Node) (peer : Ipv6) (now : Timestamp)
    : sent (n.prepare peer now).effects = [] := by
  unfold prepare
  split <;> simp

theorem findings_prepare (n : Node) (peer : Ipv6) (now : Timestamp)
    : findings (n.prepare peer now).effects = [] := by
  unfold prepare
  split <;> simp

@[simp]
theorem sent_sendOffer (n : Node) (link : Link) (source : Ipv6) (cookie : Cookie)
    : sent (n.sendOffer link source cookie) = link.carry source (n.offer source cookie) := by
  cases link <;> rfl

@[simp]
theorem findings_sendOffer (n : Node) (link : Link) (source : Ipv6) (cookie : Cookie)
    : findings (n.sendOffer link source cookie) = [] := by
  cases link <;> rfl

theorem sent_inspect (n : Node) (link : Link) (source : Ipv6) (cookie : Cookie)
    : sent (n.inspect link source (some cookie)).2
        =
      if n.engine.currentCookie source = cookie then [] else link.carry source (n.offer source cookie) := by
  unfold inspect Engine.check Engine.currentCookie
  by_cases hcurrent : Cookie.compute n.engine.current source = cookie
  . simp [hcurrent]
  . by_cases hprevious : Cookie.compute n.engine.previous source = cookie
    . simp [hcurrent, hprevious]
    . simp [hcurrent, hprevious]

theorem sent_inspect_eq (n : Node) (link : Link) (source : Ipv6) (shown : Option Cookie)
    : sent (n.inspect link source shown).2 = [] ∨
      ∃ cookie, shown = some cookie ∧
        sent (n.inspect link source shown).2 = [(source, n.offer source cookie)] := by
  cases shown with
  | none => exact Or.inl rfl
  | some cookie =>
    rw [sent_inspect]
    split
    . exact Or.inl rfl
    . rcases link.carry_eq source (n.offer source cookie) with hlost | hsent
      . exact Or.inl hlost
      . exact Or.inr ⟨cookie, rfl, hsent⟩

theorem findings_inspect (n : Node) (link : Link) (source : Ipv6) (shown : Option Cookie)
    : findings (n.inspect link source shown).2 = [] := by
  unfold inspect
  split
  . simp
  . split <;> simp

theorem sent_handle (n : Node) (link : Link) (source : Ipv6) (m : Message) (now : Timestamp)
    : sent (n.handle link source m now).effects
        =
      if m.code = .setCookie ∧ n.cache.lookup? source = none then
        link.carry source (.notExpected m.echoed)
      else [] := by
  unfold handle
  cases hcode : m.code with
  | setCookie =>
    unfold handleSetCookie
    cases hlookup : n.cache.lookup? source with
    | none => simp
    | some e =>
      simp only [reduceCtorEq, and_false, ↓reduceIte]
      split <;> simp
  | notExpected =>
    unfold handleNotExpected
    simp only [reduceCtorEq, false_and, ↓reduceIte]
    split
    . simp
    . split <;> simp

theorem sent_handleDatagram_eq (n : Node) (link : Link) (source : Ipv6) (bytes : List UInt8)
    (now : Timestamp)
    : sent (n.handleDatagram link source bytes now).effects = [] ∨
      ∃ m, Message.decode bytes = .ok m ∧ m.code = .setCookie ∧
        sent (n.handleDatagram link source bytes now).effects
          =
        [(source, .notExpected m.echoed)] := by
  unfold handleDatagram
  cases Message.decode bytes with
  | error => exact Or.inl rfl
  | ok m =>
    simp only [sent_handle]
    split
    . next hdisowns =>
      rcases link.carry_eq source (.notExpected m.echoed) with hlost | hsent
      . exact Or.inl hlost
      . exact Or.inr ⟨m, rfl, hdisowns.1, hsent⟩
    . exact Or.inl rfl

theorem findings_handle (n : Node) (link : Link) (source : Ipv6) (m : Message) (now : Timestamp)
    : findings (n.handle link source m now).effects
        =
      if m.code = .notExpected ∧ n.engine.verify m.echoed source then
        [(n.id, .spoofDetected source m.echoed.render)]
      else [] := by
  unfold handle
  cases hcode : m.code with
  | setCookie =>
    unfold handleSetCookie
    simp only [reduceCtorEq, false_and, ↓reduceIte]
    split
    . simp
    . split <;> simp
  | notExpected =>
    unfold handleNotExpected
    simp only [true_and]
    split
    . simp
    . split <;> simp

def reply? (n : Node) (o : Occasion) : Option (Ipv6 × Message) :=
  match o.operation with
  | .inspect source (some cookie) =>
    if n.engine.currentCookie source = cookie then none else some (source, n.offer source cookie)
  | .handleDatagram source bytes =>
    match Message.decode bytes with
    | .ok m =>
      if m.code = .setCookie ∧ n.cache.lookup? source = none then
        some (source, .notExpected m.echoed)
      else none
    | .error _ => none
  | _ => none

theorem sent_step (n : Node) (o : Occasion)
    : sent (n.step o).effects
        =
      match n.reply? o with
      | some (destination, m) => o.link.carry destination m
      | none => [] := by
  obtain ⟨now, link, operation⟩ := o
  cases operation with
  | prepare peer => exact n.sent_prepare peer now
  | inspect source shown =>
    cases shown with
    | none => rfl
    | some cookie =>
      simp only [step, reply?, sent_inspect]
      split <;> rfl
  | handleDatagram source bytes =>
    simp only [step, reply?, handleDatagram]
    cases Message.decode bytes with
    | error => rfl
    | ok m =>
      simp only [sent_handle]
      split <;> rfl
  | rotate drawn => rfl
  | elapse nanoseconds => rfl

theorem length_sent_step_le (n : Node) (o : Occasion) : (sent (n.step o).effects).length ≤ 1 := by
  rw [sent_step]
  cases n.reply? o with
  | none => simp
  | some r => cases o.link <;> simp [Link.carry]

end Node

def Engine.disowned? (e : Engine) (o : Occasion) : Option (Ipv6 × Cookie) :=
  match o.operation with
  | .handleDatagram source bytes =>
    match Message.decode bytes with
    | .ok m =>
      if m.code = .notExpected ∧
          (m.echoed = .compute e.current source ∨ m.echoed = .compute e.previous source) then
        some (source, m.echoed)
      else none
    | .error _ => none
  | _ => none

theorem Engine.disowned?_eq_some_iff {e : Engine} {o : Occasion} {peer : Ipv6} {cookie : Cookie}
    : e.disowned? o = some (peer, cookie)
        ↔
      ∃ bytes m, o.operation = .handleDatagram peer bytes ∧ Message.decode bytes = .ok m ∧
        m.code = .notExpected ∧ e.verify m.echoed peer = true ∧ m.echoed = cookie := by
  obtain ⟨now, link, operation⟩ := o
  unfold disowned?
  cases operation with
  | handleDatagram source bytes =>
    simp only
    cases hdecode : Message.decode bytes with
    | error => simp [hdecode]
    | ok m =>
      simp only [Option.ite_none_right_eq_some, Option.some.injEq, Prod.mk.injEq, ← verify_iff]
      constructor
      . rintro ⟨⟨hcode, hverify⟩, hpeer, hcookie⟩
        subst hpeer
        exact ⟨bytes, m, rfl, hdecode, hcode, hverify, hcookie⟩
      . rintro ⟨bytes', m', ⟨⟩, hdecode', hcode, hverify, hcookie⟩
        rw [hdecode] at hdecode'
        injection hdecode' with hm
        subst hm
        exact ⟨⟨hcode, hverify⟩, rfl, hcookie⟩
  | _ => simp

namespace Node

variable {n : Node}

def report (n : Node) (disowned : Ipv6 × Cookie) : Uuid × Finding :=
  (n.id, .spoofDetected disowned.1 disowned.2.render)

theorem findings_step (n : Node) (o : Occasion)
    : findings (n.step o).effects = ((n.engine.disowned? o).map n.report).toList := by
  obtain ⟨now, link, operation⟩ := o
  cases operation with
  | prepare peer => exact n.findings_prepare peer now
  | inspect source shown => exact n.findings_inspect link source shown
  | handleDatagram source bytes =>
    simp only [step, Engine.disowned?, handleDatagram]
    cases Message.decode bytes with
    | error => rfl
    | ok m =>
      simp only [findings_handle, Engine.verify_iff]
      split <;> rfl
  | rotate drawn => rfl
  | elapse nanoseconds => rfl

theorem mem_sent_step_iff {o : Occasion} {r : Ipv6 × Message}
    : r ∈ sent (n.step o).effects ↔ o.link = .up ∧ n.reply? o = some r := by
  rw [sent_step]
  cases n.reply? o with
  | none => simp
  | some r' => cases o.link <;> simp [Link.carry, eq_comm]

theorem reply?_cases {o : Occasion} {peer : Ipv6} {m : Message} (hreply : n.reply? o = some (peer, m))
    : (∃ cookie, o.operation = .inspect peer (some cookie) ∧ n.engine.currentCookie peer ≠ cookie ∧
        m = n.offer peer cookie) ∨
      ∃ bytes m', o.operation = .handleDatagram peer bytes ∧ Message.decode bytes = .ok m' ∧
        m'.code = .setCookie ∧ n.cache.lookup? peer = none ∧ m = .notExpected m'.echoed := by
  obtain ⟨now, link, operation⟩ := o
  unfold reply? at hreply
  simp only at hreply
  split at hreply
  . next source cookie =>
    split at hreply
    . contradiction
    . next hne =>
      injection hreply with heq
      injection heq with hpeer hm
      subst hpeer
      exact Or.inl ⟨cookie, rfl, hne, hm.symm⟩
  . next source bytes =>
    split at hreply
    . next m' hdecode =>
      split at hreply
      . next hdisowns =>
        injection hreply with heq
        injection heq with hpeer hm
        subst hpeer
        exact Or.inr ⟨bytes, m', rfl, hdecode, hdisowns.1, hdisowns.2, hm.symm⟩
      . contradiction
    . contradiction
  . contradiction

theorem mem_sent_step {o : Occasion} {peer : Ipv6} {m : Message}
    (hmem : (peer, m) ∈ sent (n.step o).effects)
    : (∃ cookie, o.operation = .inspect peer (some cookie) ∧ n.engine.currentCookie peer ≠ cookie ∧
        m = n.offer peer cookie) ∨
      ∃ bytes m', o.operation = .handleDatagram peer bytes ∧ Message.decode bytes = .ok m' ∧
        m'.code = .setCookie ∧ n.cache.lookup? peer = none ∧ m = .notExpected m'.echoed :=
  reply?_cases (mem_sent_step_iff.1 hmem).2

theorem mem_findings_step_iff {o : Occasion} {id : Uuid} {finding : Finding}
    : (id, finding) ∈ findings (n.step o).effects
        ↔
      ∃ peer bytes m, o.operation = .handleDatagram peer bytes ∧ Message.decode bytes = .ok m ∧
        m.code = .notExpected ∧ n.engine.verify m.echoed peer = true ∧
        id = n.id ∧ finding = .spoofDetected peer m.echoed.render := by
  rw [findings_step]
  simp only [Option.mem_toList, Option.map_eq_some_iff, Prod.exists, Engine.disowned?_eq_some_iff, report,
    Prod.mk.injEq]
  constructor
  . rintro ⟨peer, _, ⟨bytes, m, received, decoded, code, verifies, rfl⟩, hid, hfinding⟩
    exact ⟨peer, bytes, m, received, decoded, code, verifies, hid.symm, hfinding.symm⟩
  . rintro ⟨peer, bytes, m, received, decoded, code, verifies, hid, hfinding⟩
    exact ⟨peer, m.echoed, ⟨bytes, m, received, decoded, code, verifies, rfl⟩, hid.symm, hfinding.symm⟩

end Node

end SourceCookie

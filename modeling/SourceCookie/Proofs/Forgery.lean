import SourceCookie.Proofs.Host
import SourceCookie.Proofs.Message
import SourceCookie.Proofs.Node.Findings
import SourceCookie.Proofs.Node.Reception

/-!
A datagram with a forged source address, and how the receiver comes to know of it. The receiver answers
the node whose address it is, which disowns the datagram if it has no entry of the receiver. What it
disowns is a forged source address if the cookie was one of the receiver's, and nothing to be believed
otherwise; whether it was is settled by the receiver's keys alone.
-/

namespace SourceCookie

open Effect

def relayed (source destination : Ipv6) (now : Timestamp) (link : Link) (messages : List (Ipv6 × Message))
    : List Occasion :=
  (messages.filter (·.1 = destination)).map fun (_, m) => ⟨now, link, .handleDatagram source m.encode⟩

@[simp]
theorem relayed_nil (source destination : Ipv6) (now : Timestamp) (link : Link)
    : relayed source destination now link [] = [] :=
  rfl

@[simp]
theorem relayed_singleton (source destination : Ipv6) (now : Timestamp) (link : Link) (m : Message)
    : relayed source destination now link [(destination, m)]
        =
      [⟨now, link, .handleDatagram source m.encode⟩] := by
  simp [relayed]

structure Forgery where
  named : Node
  namedAddress : Ipv6
  receiver : Node
  receiverAddress : Ipv6
  cookie : Cookie
  inspected : Timestamp
  answered : Timestamp
  returned : Timestamp
  /-- What else the receiver does until then. -/
  meanwhile : List Occasion
  link : Link

namespace Forgery

def inspection (f : Forgery) : Occasion :=
  ⟨f.inspected, .up, .inspect f.namedAddress (some f.cookie)⟩

def toNamed (f : Forgery) : List Occasion :=
  relayed f.receiverAddress f.namedAddress f.answered .up (f.receiver.messages [f.inspection])

def toReceiver (f : Forgery) : List Occasion :=
  relayed f.namedAddress f.receiverAddress f.returned f.link (f.named.messages f.toNamed)

def waiting (f : Forgery) : Node := f.receiver.run (f.inspection :: f.meanwhile)

def answers (f : Forgery) : List Answer := (f.waiting.trace f.toReceiver).map Step.answer

def published (f : Forgery) : List (Uuid × Finding) :=
  f.receiver.published [f.inspection] ++ f.waiting.published f.toReceiver

end Forgery

namespace Node

variable {n : Node} {source : Ipv6} {now : Timestamp} {link : Link}

theorem id_run (n : Node) (os : List Occasion) : (n.run os).id = n.id := by
  rw [run_eq_foldl]
  apply foldl_preserves fun m : Node => m.id = n.id
  . intro m o h
    exact (m.id_next o).trans h
  . rfl

theorem next_and_messages_of_setCookie (hnone : n.cache.lookup? source = none) (lifetimeLog2 : UInt8)
    (echoed requested : Cookie)
    : n.next ⟨now, .up, .handleDatagram source (Message.setCookie lifetimeLog2 echoed requested).encode⟩
        =
      n ∧
      n.messages
          [⟨now, .up, .handleDatagram source (Message.setCookie lifetimeLog2 echoed requested).encode⟩]
        =
      [(source, .notExpected echoed)] := by
  have hdecode := Message.decode_encode_setCookie lifetimeLog2 echoed requested
  rw [messages_cons, messages_nil, List.append_nil]
  simp only [next, step, handleDatagram, hdecode, sent_handle, hnone]
  refine ⟨?_, rfl⟩
  unfold handle handleSetCookie
  simp only [Message.setCookie, hnone]

theorem answers_of_notExpected (n : Node) (echoed : Cookie)
    : (n.trace [⟨now, link, .handleDatagram source (Message.notExpected echoed).encode⟩]).map Step.answer
        =
      [.outcome (if echoed = .compute n.engine.current source ∨
          echoed = .compute n.engine.previous source then .spoofDetected else .discardedForged)] ∧
      (n.run [⟨now, link, .handleDatagram source (Message.notExpected echoed).encode⟩]).engine = n.engine ∧
      (n.run [⟨now, link, .handleDatagram source (Message.notExpected echoed).encode⟩]).cache = n.cache := by
  have hdecode := Message.decode_encode_notExpected echoed
  obtain ⟨hanswer, hengine, hcache, _⟩ := n.handleDatagram_notExpected hdecode rfl link now
  exact ⟨congrArg (fun outcome => [Answer.outcome outcome]) hanswer, hengine, hcache⟩

theorem published_of_notExpected (n : Node) (echoed : Cookie)
    : n.published [⟨now, link, .handleDatagram source (Message.notExpected echoed).encode⟩]
        =
      if echoed = .compute n.engine.current source ∨ echoed = .compute n.engine.previous source then
        [(n.id, .spoofDetected source echoed.render)]
      else [] := by
  have hdecode := Message.decode_encode_notExpected echoed
  rw [published_cons, published_nil, List.append_nil]
  simp only [step, handleDatagram, hdecode, findings_handle, Engine.verify_iff]
  simp [Message.notExpected]

end Node

namespace Forgery

variable {f : Forgery}

theorem waiting_eq (f : Forgery) : f.waiting = f.receiver.run f.meanwhile := rfl

theorem engine_waiting (hkeys : Node.drawings f.meanwhile = [])
    : f.waiting.engine = f.receiver.engine := by
  rw [waiting_eq, Node.engine_run, hkeys]
  rfl

theorem messages_inspection (f : Forgery)
    : f.receiver.messages [f.inspection]
        =
      if f.receiver.engine.currentCookie f.namedAddress = f.cookie then []
      else [(f.namedAddress, f.receiver.offer f.namedAddress f.cookie)] := by
  rw [Node.messages_cons, Node.messages_nil, List.append_nil]
  exact f.receiver.sent_inspect .up f.namedAddress f.cookie

theorem published_inspection (f : Forgery) : f.receiver.published [f.inspection] = [] := by
  rw [Node.published_cons, Node.published_nil, List.append_nil]
  exact f.receiver.findings_inspect .up f.namedAddress (some f.cookie)

section Answered

variable (hcookie : f.cookie ≠ .compute f.receiver.engine.current f.namedAddress)
  (hnone : f.named.cache.lookup? f.receiverAddress = none)
include hcookie

theorem toNamed_of_ne
    : f.toNamed = [⟨f.answered, .up, .handleDatagram f.receiverAddress
        (f.receiver.offer f.namedAddress f.cookie).encode⟩] := by
  unfold toNamed
  rw [messages_inspection]
  unfold Engine.currentCookie
  rw [if_neg (Ne.symm hcookie), relayed_singleton]

include hnone

theorem run_toNamed_of_ne : f.named.run f.toNamed = f.named := by
  rw [toNamed_of_ne hcookie]
  exact (Node.next_and_messages_of_setCookie hnone _ _ _).1

theorem toReceiver_of_ne
    : f.toReceiver = [⟨f.returned, f.link, .handleDatagram f.namedAddress
        (Message.notExpected f.cookie).encode⟩] := by
  unfold toReceiver
  rw [toNamed_of_ne hcookie]
  unfold Node.offer
  rw [(Node.next_and_messages_of_setCookie hnone _ _ _).2, relayed_singleton]

theorem answers_of_ne (hkeys : Node.drawings f.meanwhile = [])
    : f.answers
        =
      [.outcome (if f.cookie = .compute f.receiver.engine.previous f.namedAddress then .spoofDetected
        else .discardedForged)] := by
  unfold answers
  rw [toReceiver_of_ne hcookie hnone, (f.waiting.answers_of_notExpected f.cookie).1, engine_waiting hkeys]
  simp only [or_iff_right hcookie]

theorem run_toReceiver_of_ne
    : (f.waiting.run f.toReceiver).engine = f.waiting.engine ∧
      (f.waiting.run f.toReceiver).cache = f.waiting.cache := by
  rw [toReceiver_of_ne hcookie hnone]
  exact (f.waiting.answers_of_notExpected f.cookie).2

theorem published_of_ne (hkeys : Node.drawings f.meanwhile = [])
    : f.published
        =
      if f.cookie = .compute f.receiver.engine.previous f.namedAddress then
        [(f.receiver.id, .spoofDetected f.namedAddress f.cookie.render)]
      else [] := by
  unfold published
  rw [published_inspection, toReceiver_of_ne hcookie hnone, Node.published_of_notExpected,
    engine_waiting hkeys, waiting_eq, Node.id_run, List.nil_append]
  simp only [or_iff_right hcookie]

end Answered

theorem toNamed_of_eq (hcookie : f.cookie = .compute f.receiver.engine.current f.namedAddress)
    : f.receiver.messages [f.inspection] = [] ∧ f.toNamed = [] := by
  have hmessages : f.receiver.messages [f.inspection] = [] := by
    rw [messages_inspection]
    exact if_pos hcookie.symm
  refine ⟨hmessages, ?_⟩
  unfold toNamed
  rw [hmessages, relayed_nil]

theorem toReceiver_of_eq (hcookie : f.cookie = .compute f.receiver.engine.current f.namedAddress)
    : f.toReceiver = [] := by
  unfold toReceiver
  rw [(toNamed_of_eq hcookie).2, Node.messages_nil, relayed_nil]

theorem answer_inspection (f : Forgery)
    : (f.receiver.step f.inspection).answer
        =
      .verdict (if f.cookie = .compute f.receiver.engine.current f.namedAddress ∨
          f.cookie = .compute f.receiver.engine.previous f.namedAddress then .accept else .reject) := by
  rw [← f.receiver.verdict_inspect .up]
  rfl

theorem answers_and_published_of_absent (f : Forgery)
    (hnone : f.named.cache.lookup? f.receiverAddress = none) (hkeys : Node.drawings f.meanwhile = [])
    : (f.cookie = .compute f.receiver.engine.current f.namedAddress →
        (f.receiver.step f.inspection).answer = .verdict .accept ∧
        f.receiver.messages [f.inspection] = [] ∧ f.named.messages f.toNamed = [] ∧
        f.answers = [] ∧ f.published = []) ∧
      (f.cookie ≠ .compute f.receiver.engine.current f.namedAddress →
        f.cookie = .compute f.receiver.engine.previous f.namedAddress →
        (f.receiver.step f.inspection).answer = .verdict .accept ∧
        f.answers = [.outcome .spoofDetected] ∧
        f.published = [(f.receiver.id, .spoofDetected f.namedAddress f.cookie.render)]) ∧
      (f.cookie ≠ .compute f.receiver.engine.current f.namedAddress →
        f.cookie ≠ .compute f.receiver.engine.previous f.namedAddress →
        (f.receiver.step f.inspection).answer = .verdict .reject ∧
        f.answers = [.outcome .discardedForged] ∧ f.published = []) ∧
      (f.named.run f.toNamed).engine = f.named.engine ∧
      (f.named.run f.toNamed).cache = f.named.cache ∧
      (f.waiting.run f.toReceiver).engine = f.receiver.engine ∧
      (f.waiting.run f.toReceiver).cache = (f.receiver.run f.meanwhile).cache := by
  have hnamed : f.named.run f.toNamed = f.named := by
    by_cases hcookie : f.cookie = .compute f.receiver.engine.current f.namedAddress
    . rw [(toNamed_of_eq hcookie).2]
      rfl
    . exact run_toNamed_of_ne hcookie hnone
  have hreceiver : (f.waiting.run f.toReceiver).engine = f.waiting.engine ∧
      (f.waiting.run f.toReceiver).cache = f.waiting.cache := by
    by_cases hcookie : f.cookie = .compute f.receiver.engine.current f.namedAddress
    . rw [toReceiver_of_eq hcookie]
      exact ⟨rfl, rfl⟩
    . exact run_toReceiver_of_ne hcookie hnone
  rw [answer_inspection, hnamed, hreceiver.1, hreceiver.2, engine_waiting hkeys, waiting_eq]
  refine ⟨?_, ?_, ?_, rfl, rfl, rfl, rfl⟩
  . intro hcurrent
    obtain ⟨hmessages, hoffers⟩ := toNamed_of_eq hcurrent
    unfold answers published
    rw [if_pos (Or.inl hcurrent), hmessages, hoffers, toReceiver_of_eq hcurrent, published_inspection]
    exact ⟨rfl, rfl, rfl, rfl, rfl⟩
  . intro hcurrent hprevious
    rw [answers_of_ne hcurrent hnone hkeys, published_of_ne hcurrent hnone hkeys, if_pos (Or.inr hprevious),
      if_pos hprevious, if_pos hprevious]
    exact ⟨rfl, rfl, rfl⟩
  . intro hcurrent hprevious
    rw [answers_of_ne hcurrent hnone hkeys, published_of_ne hcurrent hnone hkeys,
      if_neg (not_or.2 ⟨hcurrent, hprevious⟩), if_neg hprevious, if_neg hprevious]
    exact ⟨rfl, rfl, rfl⟩

def replay : Forgery where
  named := .create default {} ⟨.uniform 3, .uniform 4, 0⟩
  namedAddress := .ofGroups [1]
  receiver := .create default {} ⟨.uniform 2, .uniform 1, 1⟩
  receiverAddress := .ofGroups [2]
  cookie := .compute (.uniform 1) (.ofGroups [1])
  inspected := 5
  answered := 6
  returned := 8
  meanwhile := [⟨7, .up, .prepare (.ofGroups [3])⟩]
  link := .up

theorem answers_and_published_of_absent_replay
    : replay.named.cache.lookup? replay.receiverAddress = none ∧
      Node.drawings replay.meanwhile = [] ∧
      (replay.receiver.step replay.inspection).answer = .verdict .accept ∧
      replay.answers = [.outcome .spoofDetected] ∧
      replay.published
        =
      [(default, .spoofDetected (.ofGroups [1]) (Cookie.compute (.uniform 1) (.ofGroups [1])).render)] ∧
      (replay.waiting.run replay.toReceiver).cache = (replay.receiver.run replay.meanwhile).cache := by
  have hcurrent : replay.cookie ≠ .compute replay.receiver.engine.current replay.namedAddress := by
    decide +kernel
  have hround := answers_and_published_of_absent replay rfl rfl
  obtain ⟨haccepted, hanswers, hpublished⟩ := hround.2.1 hcurrent rfl
  exact ⟨rfl, rfl, haccepted, hanswers, hpublished, hround.2.2.2.2.2.2⟩

end Forgery

end SourceCookie

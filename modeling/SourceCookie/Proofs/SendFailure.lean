import SourceCookie.Proofs.Host

/-!
Runs over a transport that fails now and then. What a node hands to the transport is lost for good if the
transport fails, and that is all: the node goes on as if the message had got out.
-/

namespace SourceCookie

def Occasion.withLink (o : Occasion) (link : Link) : Occasion := { o with link }

def Occasion.withLinks (links : Nat → Link) (os : List Occasion) : List Occasion :=
  os.mapIdx fun i o => o.withLink (links i)

open Occasion Effect

@[simp]
theorem Occasion.withLinks_nil (links : Nat → Link) : withLinks links [] = [] := rfl

@[simp]
theorem Occasion.withLinks_cons (links : Nat → Link) (o : Occasion) (os : List Occasion)
    : withLinks links (o :: os) = o.withLink (links 0) :: withLinks (fun i => links (i + 1)) os := by
  unfold withLinks
  rw [List.mapIdx_cons]

namespace Node

variable {n : Node} {o : Occasion}

theorem handleDatagram_of_link (n : Node) (link link' : Link) (source : Ipv6) (bytes : List UInt8)
    (now : Timestamp)
    : (n.handleDatagram link source bytes now).answer = (n.handleDatagram link' source bytes now).answer ∧
      (n.handleDatagram link source bytes now).node = (n.handleDatagram link' source bytes now).node := by
  unfold handleDatagram
  cases Message.decode bytes with
  | error => exact ⟨rfl, rfl⟩
  | ok m =>
    simp only [handle]
    cases m.code with
    | notExpected => exact ⟨rfl, rfl⟩
    | setCookie =>
      simp only [handleSetCookie]
      cases n.cache.lookup? source with
      | none => exact ⟨rfl, rfl⟩
      | some e => exact ⟨rfl, rfl⟩

theorem inspect_of_link (n : Node) (link link' : Link) (source : Ipv6) (shown : Option Cookie)
    : (n.inspect link source shown).1 = (n.inspect link' source shown).1 := by
  unfold inspect
  cases shown with
  | none => rfl
  | some cookie =>
    simp only
    cases n.engine.check cookie source <;> rfl

theorem step_withLink (n : Node) (o : Occasion) (link : Link)
    : (n.step (o.withLink link)).answer = (n.step o).answer ∧
      (n.step (o.withLink link)).node = (n.step o).node := by
  obtain ⟨now, link', operation⟩ := o
  unfold step withLink
  cases operation with
  | prepare peer => exact ⟨rfl, rfl⟩
  | inspect source shown =>
    exact ⟨congrArg Answer.verdict (n.inspect_of_link link link' source shown), rfl⟩
  | handleDatagram source bytes =>
    obtain ⟨hanswer, hnode⟩ := n.handleDatagram_of_link link link' source bytes now
    exact ⟨congrArg Answer.outcome hanswer, hnode⟩
  | rotate drawn => exact ⟨rfl, rfl⟩
  | elapse nanoseconds => exact ⟨rfl, rfl⟩

theorem next_withLink (n : Node) (o : Occasion) (link : Link) : n.next (o.withLink link) = n.next o :=
  (n.step_withLink o link).2

theorem findings_step_withLink (n : Node) (o : Occasion) (link : Link)
    : findings (n.step (o.withLink link)).effects = findings (n.step o).effects := by
  rw [findings_step, findings_step]
  rfl

theorem sent_step_withLink (n : Node) (o : Occasion) (link : Link)
    : sent (n.step (o.withLink link)).effects
        =
      if link = .up then sent (n.step (o.withLink .up)).effects else [] := by
  have hreply : ∀ link', n.reply? (o.withLink link') = n.reply? o := fun _ => rfl
  rw [sent_step, sent_step, hreply, hreply]
  cases link with
  | up => rfl
  | down => cases n.reply? o <;> rfl

theorem trace_withLinks (n : Node) (os : List Occasion) (links links' : Nat → Link)
    : (n.trace (withLinks links os)).map Step.answer = (n.trace (withLinks links' os)).map Step.answer ∧
      (n.trace (withLinks links os)).map Step.node = (n.trace (withLinks links' os)).map Step.node ∧
      (n.trace (withLinks links os)).map (fun s => findings s.effects)
        =
      (n.trace (withLinks links' os)).map fun s => findings s.effects := by
  induction os generalizing n links links' with
  | nil => exact ⟨rfl, rfl, rfl⟩
  | cons o os ih =>
    obtain ⟨hanswers, hnodes, hfindings⟩ := ih (n.next o) (fun i => links (i + 1)) (fun i => links' (i + 1))
    simp only [withLinks_cons, trace_cons, List.map_cons, next_withLink, findings_step_withLink,
      n.step_withLink o, hanswers, hnodes, hfindings, and_self]

theorem messages_withLinks (n : Node) (os : List Occasion) (links : Nat → Link)
    : n.messages (withLinks links os)
        =
      ((n.trace (withLinks (fun _ => .up) os)).mapIdx fun i s =>
        if links i = .up then sent s.effects else []).flatten := by
  induction os generalizing n links with
  | nil => rfl
  | cons o os ih =>
    rw [withLinks_cons, messages_cons, next_withLink, sent_step_withLink, ih]
    simp only [withLinks_cons, trace_cons, next_withLink, List.mapIdx_cons, List.flatten_cons]

end Node

namespace Host

/-- Whatever the transport does with the messages, answers, node and findings are the same at every step, and
the messages that get out are those of the run over a transport that never fails, less those at which it
failed. No operation hands it more than one. -/
theorem trace_withLinks_and_outbox_eq (h : Host) (os : List Occasion) (links links' : Nat → Link)
    : (h.node.trace (withLinks links os)).map Step.answer
        =
      (h.node.trace (withLinks links' os)).map Step.answer ∧
      (h.node.trace (withLinks links os)).map Step.node = (h.node.trace (withLinks links' os)).map Step.node ∧
      (h.node.trace (withLinks links os)).map (fun s => Effect.findings s.effects)
        =
      (h.node.trace (withLinks links' os)).map (fun s => Effect.findings s.effects) ∧
      (h.run (withLinks links os)).outbox
        =
      h.outbox ++ ((h.node.trace (withLinks (fun _ => .up) os)).mapIdx fun i s =>
        if links i = .up then sent s.effects else []).flatten ∧
      (∀ n o, (sent (Node.step n o).effects).length ≤ 1) := by
  obtain ⟨hanswers, hnodes, hfindings⟩ := h.node.trace_withLinks os links links'
  refine ⟨hanswers, hnodes, hfindings, ?_, Node.length_sent_step_le⟩
  rw [outbox_run, Node.messages_withLinks]

end Host

end SourceCookie

import SourceCookie.Node.Host
import SourceCookie.Proofs.Node.Effects

/-!
Runs of a host. Its outbox fills with the messages that get out and its channel with the findings, both in
the order in which the node comes to them.
-/

namespace SourceCookie

namespace Channel

variable {α : Type}

@[simp]
theorem published_publish (c : Channel α) (a : α) : (c.publish a).published = c.published ++ [a] := rfl

theorem published_foldl_publish (c : Channel α) (as : List α)
    : (as.foldl publish c).published = c.published ++ as := by
  induction as generalizing c with
  | nil => simp
  | cons a rest ih => simp [ih]

end Channel

open Effect

namespace Node

def messages (n : Node) (os : List Occasion) : List (Ipv6 × Message) :=
  (n.trace os).flatMap fun s => sent s.effects

def published (n : Node) (os : List Occasion) : List (Uuid × Finding) :=
  (n.trace os).flatMap fun s => findings s.effects

variable {n : Node} {o : Occasion} {os : List Occasion}

theorem trace_cons (n : Node) (o : Occasion) (os : List Occasion)
    : n.trace (o :: os) = n.step o :: (n.next o).trace os :=
  rfl

@[simp]
theorem messages_nil (n : Node) : n.messages [] = [] := rfl

theorem messages_cons (n : Node) (o : Occasion) (os : List Occasion)
    : n.messages (o :: os) = sent (n.step o).effects ++ (n.next o).messages os := by
  unfold messages
  rw [trace_cons, List.flatMap_cons]

@[simp]
theorem published_nil (n : Node) : n.published [] = [] := rfl

theorem published_cons (n : Node) (o : Occasion) (os : List Occasion)
    : n.published (o :: os) = findings (n.step o).effects ++ (n.next o).published os := by
  unfold published
  rw [trace_cons, List.flatMap_cons]

end Node

namespace Host

def next (h : Host) (o : Occasion) : Host :=
  h.perform (h.node.step o).node (h.node.step o).effects

def run (h : Host) (os : List Occasion) : Host := os.foldl next h

theorem run_cons (h : Host) (o : Occasion) (os : List Occasion) : h.run (o :: os) = (h.next o).run os :=
  rfl

theorem outbox_run (h : Host) (os : List Occasion)
    : (h.run os).outbox = h.outbox ++ h.node.messages os := by
  induction os generalizing h with
  | nil => simp [run]
  | cons o os ih =>
    rw [run_cons, ih, Node.messages_cons, ← List.append_assoc]
    rfl

theorem published_run (h : Host) (os : List Occasion)
    : (h.run os).findings.published = h.findings.published ++ h.node.published os := by
  induction os generalizing h with
  | nil => simp [run]
  | cons o os ih =>
    rw [run_cons, ih, Node.published_cons, ← List.append_assoc]
    unfold next perform
    rw [Channel.published_foldl_publish]
    rfl

end Host

end SourceCookie

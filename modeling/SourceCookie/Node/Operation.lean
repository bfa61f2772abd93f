import SourceCookie.Node.Handle
import SourceCookie.Node.Inspect
import SourceCookie.Node.Prepare

/-!
Runs of a node: operations one after another, each at a time and with a link that is up or down.
-/

namespace SourceCookie

inductive Operation where
  | prepare (peer : Ipv6)
  | inspect (source : Ipv6) (cookie : Option Cookie)
  | handleDatagram (source : Ipv6) (bytes : List UInt8)
  | rotate (drawn : SecretKey)
  | elapse (nanoseconds : Nat)
  deriving DecidableEq

inductive Answer where
  | decision (d : SendDecision)
  | verdict (v : Verdict)
  | outcome (o : Outcome)
  | epoch (n : Nat)
  | elapsed
  deriving DecidableEq

structure Occasion where
  now : Timestamp
  link : Link
  operation : Operation
  deriving DecidableEq

namespace Node

def step (n : Node) (o : Occasion) : Step Answer :=
  match o.operation with
  | .prepare peer =>
    let s := n.prepare peer o.now
    ⟨.decision s.answer, s.node, s.effects⟩
  | .inspect source cookie =>
    let (verdict, effects) := n.inspect o.link source cookie
    ⟨.verdict verdict, n, effects⟩
  | .handleDatagram source bytes =>
    let s := n.handleDatagram o.link source bytes o.now
    ⟨.outcome s.answer, s.node, s.effects⟩
  | .rotate drawn =>
    let s := n.rotate drawn
    ⟨.epoch s.answer, s.node, s.effects⟩
  | .elapse nanoseconds =>
    let s := n.elapse nanoseconds
    ⟨.elapsed, s.node, s.effects⟩

def run (n : Node) (occasions : List Occasion) : Node :=
  occasions.foldl (fun n o => (n.step o).node) n

def trace (n : Node) : List Occasion → List (Step Answer)
  | [] => []
  | o :: os => n.step o :: (n.step o).node.trace os

end Node

end SourceCookie

import SourceCookie.Event.Channel
import SourceCookie.Node.Basic

/-!
A node at work: what it sends waits to be carried away, and what it finds out goes to subscribers.
-/

namespace SourceCookie

structure Host where
  node : Node
  link : Link
  outbox : List (Ipv6 × Message)
  findings : Channel (Uuid × Finding)

namespace Host

def start (node : Node) (link : Link) (capacity : Nat) : Host :=
  ⟨node, link, [], .create capacity⟩

def perform (h : Host) (node : Node) (effects : List Effect) : Host :=
  { h with
    node
    outbox := h.outbox ++ Effect.sent effects
    findings := (Effect.findings effects).foldl Channel.publish h.findings }

end Host

end SourceCookie

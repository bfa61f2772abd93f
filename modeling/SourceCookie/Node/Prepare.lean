import SourceCookie.Node.Basic

/-!
The sending side of a node: how to send the next datagram to a peer.
-/

namespace SourceCookie

structure SendDecision where
  transition : Transition
  outbound : Outbound
  deriving DecidableEq

def Transition.effects (t : Transition) (peer : Ipv6) (lifetime : Lifetime) : List Effect :=
  let record (message : String) : Effect := .log {
    level := .info
    target := sendTarget
    message
    fields := [("peer", addressField peer), ("lifetime_log2", .number lifetime.toNat)] }
  match t with
  | fallbackEntered =>
    [.count .fallbackEntered,
      record "No SET-COOKIE within recovery window, sending without cookies"]
  | retryCookies =>
    [.count .fallbackExpired, record "Fallback period over, retrying cookies"]
  | _ => []

namespace Node

/--
Decides how to send a datagram to `peer` at time `now`. An entry is evaluated first; a new entry is
seeded with the cookie that this node itself would expect from the peer, which the peer will not
accept but answers with the right one.
-/
def prepare (n : Node) (peer : Ipv6) (now : Timestamp) : Step SendDecision :=
  match n.cache.lookup? peer with
  | some entry =>
    let (transition, entry) := entry.evaluate now n.settings.timing
    ⟨⟨transition, entry.outbound⟩,
      { n with cache := n.cache.modify peer fun _ => entry },
      n.tableUse ++ transition.effects peer entry.lifetime⟩
  | none =>
    let disabled := n.policyDisables peer
    let (entry, cache) := n.cache.insert peer disabled (n.engine.currentCookie peer) now
    ⟨⟨.created disabled, entry.outbound⟩, { n with cache },
      n.tableUse ++ n.tableUse ++ [.count .entriesCreated]⟩

end Node

end SourceCookie

import SourceCookie.Node.Basic

/-!
The receiving side of a node: whether a datagram is taken, by the cookie it carries. A datagram whose
cookie is not the current one is answered with the current one, so that an honest sender learns it
and a peer whose address was forged can disown the datagram.
-/

namespace SourceCookie

inductive Verdict where
  | accept
  | reject
  deriving DecidableEq

def UnmarkedPolicy.verdict : UnmarkedPolicy → Verdict
  | pass => .accept
  | drop => .reject

namespace Node

def offer (n : Node) (source : Ipv6) (cookie : Cookie) : Message :=
  .setCookie n.settings.offeredLog2 cookie (n.engine.currentCookie source)

def sendOffer (n : Node) (link : Link) (source : Ipv6) (cookie : Cookie) : List Effect :=
  let (sent, effects) := link.transmit source (n.offer source cookie)
  effects ++ if sent then [.count .setCookieSent] else []

def inspect (n : Node) (link : Link) (source : Ipv6) (cookie : Option Cookie)
    : Verdict × List Effect :=
  match cookie with
  | none => (n.settings.unmarked.verdict, [.count .unmarkedReceived])
  | some cookie =>
    match n.engine.check cookie source with
    | .current => (.accept, [.count .cookiesAccepted])
    | .previous =>
      (.accept, .count .cookiesAccepted :: .count .cookiesRenewed :: n.sendOffer link source cookie)
    | .invalid => (.reject, .count .cookiesRejected :: n.sendOffer link source cookie)

end Node

end SourceCookie

import SourceCookie.Node.Basic

/-!
Control messages: a peer's new cookie is taken if it answers the cookie that the node attaches now,
and a peer that disowns a cookie of ours tells of a forged source address.
-/

namespace SourceCookie

inductive Outcome where
  | repliedNotExpected
  | discardedStaleEcho
  | cookieUpdated
  | spoofDetected
  | discardedForged
  | discardedMalformed
  deriving DecidableEq

/--
The lifetime that is taken over from a peer. An entry that attaches cookies never gets a lifetime
without end, so that it comes due again.
-/
def grantedLog2 (disableCookies : Bool) (requested : UInt8) : UInt8 :=
  if !disableCookies && Lifetime.infiniteLog2 ≤ requested then Lifetime.infiniteLog2 - 1
  else requested

def Entry.accept (e : Entry) (m : Message) (now : Timestamp) : Entry :=
  (((e.setCookie m.requested).setLifetime (grantedLog2 e.disableCookies m.lifetimeLog2)).touch
    now).setExpecting false

def Finding.effects (nodeId : Uuid) : Finding → List Effect
  | spoofDetected peer echoed => [
      .log {
        level := .warn
        target := eventsTarget
        message :=
          "Spoofed datagram detected: peer disowned the traffic we answered with SET-COOKIE"
        fields := [("peer", addressField peer), ("echoed_cookie", .text echoed)] },
      .count .spoofDetected,
      .count .securityEvents,
      .publish nodeId (spoofDetected peer echoed)]

namespace Node

def handleSetCookie (n : Node) (link : Link) (source : Ipv6) (m : Message) (now : Timestamp)
    : Step Outcome :=
  match n.cache.lookup? source with
  | none =>
    let (_, effects) := link.transmit source (.notExpected m.echoed)
    ⟨.repliedNotExpected, n, n.tableUse ++ effects⟩
  | some entry =>
    if entry.cookie ≠ m.echoed then
      ⟨.discardedStaleEcho, n, n.tableUse ++ [.count .setCookieStale]⟩
    else
      ⟨.cookieUpdated, { n with cache := n.cache.modify source (·.accept m now) },
        n.tableUse ++ [.count .setCookieApplied]⟩

def handleNotExpected (n : Node) (source : Ipv6) (echoed : Cookie) : Step Outcome :=
  if n.engine.verify echoed source then
    ⟨.spoofDetected, n, (Finding.spoofDetected source echoed.render).effects n.id⟩
  else
    let (admitted, forgedReports) := n.forgedReports.use
    let report : List Effect :=
      if admitted then [.log {
        level := .warn
        target := daemonTarget
        message := "Discarding SETCOOKIE-NOT-EXPECTED with a cookie we never issued"
        fields := [("from", addressField source)] }]
      else []
    ⟨.discardedForged, { n with forgedReports }, .count .notExpectedForged :: report⟩

def handle (n : Node) (link : Link) (source : Ipv6) (m : Message) (now : Timestamp)
    : Step Outcome :=
  let step := match m.code with
    | .setCookie => n.handleSetCookie link source m now
    | .notExpected => n.handleNotExpected source m.echoed
  { step with effects := .count .controlReceived :: step.effects }

def handleDatagram (n : Node) (link : Link) (source : Ipv6) (bytes : List UInt8) (now : Timestamp)
    : Step Outcome :=
  match Message.decode bytes with
  | .ok m => n.handle link source m now
  | .error _ => ⟨.discardedMalformed, n, [.count .controlMalformed]⟩

end Node

end SourceCookie

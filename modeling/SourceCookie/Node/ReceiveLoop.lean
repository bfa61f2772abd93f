import SourceCookie.Node.Handle

/-!
The loop that takes control messages from a source and handles them, one after another, until it is
asked to stop. It looks for the request before it asks the source, never in between, so a message
that came together with the request is handled.
-/

namespace SourceCookie

inductive Received where
  | datagram (source : Ipv6) (bytes : List UInt8)
  | nothing
  | failure (error : NodeError)
  deriving DecidableEq

structure Reception where
  received : Received
  now : Timestamp
  /-- Whether stopping was requested by the time of the next look, so also while the source was asked. -/
  stopRequested : Bool
  deriving DecidableEq

structure ReceiveLoopEnd where
  node : Node
  effects : List Effect
  rest : List Reception
  stopped : Bool

namespace Node

def loopRecord (message : String) : Effect :=
  .log { level := .info, target := daemonTarget, message }

def receive (n : Node) (link : Link) (r : Reception) : Node × List Effect :=
  match r.received with
  | .datagram source bytes =>
    let s := n.handleDatagram link source bytes r.now
    (s.node, s.effects)
  | .nothing => (n, [])
  | .failure error =>
    (n, [.log {
      level := .error
      target := daemonTarget
      message := "Error receiving control message"
      fields := [("error", .text error.render)] }])

def receiveUntilStopped (n : Node) (link : Link) : Bool → List Reception → ReceiveLoopEnd
  | true, script => ⟨n, [], script, true⟩
  | false, [] => ⟨n, [], [], false⟩
  | false, r :: script =>
    let (node, effects) := n.receive link r
    let loop := node.receiveUntilStopped link r.stopRequested script
    { loop with effects := effects ++ loop.effects }

def receiveLoop (n : Node) (link : Link) (stopRequested : Bool) (script : List Reception)
    : ReceiveLoopEnd :=
  let loop := n.receiveUntilStopped link stopRequested script
  let last := if loop.stopped then [loopRecord "Control message receive loop stopped"] else []
  { loop with
    effects := loopRecord "Control message receive loop started" :: loop.effects ++ last }

end Node

end SourceCookie

import SourceCookie.Event.Instant
import SourceCookie.Event.Uuid
import SourceCookie.Net.Ipv6
import SourceCookie.Text.Json

/-!
Security events and their form as JSON objects: the members of the finding stand next to the node's
identifier and the time, and `kind` names the finding.
-/

namespace SourceCookie

inductive Finding where
  /-- A datagram that we answered did not come from `peer`; the cookie it carried is kept as text. -/
  | spoofDetected (peer : Ipv6) (echoedCookie : String)
  deriving DecidableEq

structure SecurityEvent where
  nodeId : Uuid
  timestamp : Instant
  finding : Finding
  deriving DecidableEq

namespace Finding

def kinds : List String := ["spoof_detected"]

def kind : Finding → String
  | spoofDetected _ _ => "spoof_detected"

def namesKind (place : Nat) : Json → Bool
  | .string s => kinds[place]? == some s
  | .integer n => n == place
  | _ => false

def toMembers : Finding → List (String × Json)
  | spoofDetected peer echoed => [
      ("kind", .string "spoof_detected"),
      ("peer", .string (String.ofList peer.render)),
      ("echoed_cookie", .string echoed)]

def ofMembers? (members : List (String × Json)) : Option Finding := do
  let kind ← Json.member? "kind" members
  guard (namesKind 0 kind)
  let peer ← Ipv6.parse? (← (← Json.member? "peer" members).string?).toList
  let echoed ← (← Json.member? "echoed_cookie" members).string?
  return spoofDetected peer echoed

end Finding

namespace SecurityEvent

def toJson (e : SecurityEvent) : Json :=
  .object (("node_id", .string (String.ofList e.nodeId.render))
    :: ("timestamp", .string (String.ofList e.timestamp.render))
    :: e.finding.toMembers)

def ofJson? : Json → Option SecurityEvent
  | .object members => do
    let nodeId ← Uuid.parse? (← (← Json.member? "node_id" members).string?).toList
    let timestamp ← Instant.parse? (← (← Json.member? "timestamp" members).string?).toList
    return ⟨nodeId, timestamp, ← Finding.ofMembers? members⟩
  | _ => none

end SecurityEvent

end SourceCookie

import SourceCookie.Cache
import SourceCookie.Config.Basic
import SourceCookie.Engine
import SourceCookie.Error
import SourceCookie.Event.Security
import SourceCookie.Log
import SourceCookie.Message
import SourceCookie.Quota
import SourceCookie.Renewal

/-!
A node and what it does to the outside: messages sent, findings published, counters and log records.
Each operation of a node is a function to its answer, the node afterwards and a list of effects.
-/

namespace SourceCookie

inductive Counter where
  | entriesCreated
  | fallbackEntered
  | fallbackExpired
  | cookiesAccepted
  | cookiesRenewed
  | cookiesRejected
  | unmarkedReceived
  | setCookieSent
  | setCookieApplied
  | setCookieStale
  | controlReceived
  | controlMalformed
  | controlSent (code : Code)
  | controlSendErrors
  | notExpectedForged
  | spoofDetected
  | securityEvents
  | secretRotations
  deriving DecidableEq

def Code.label : Code → String
  | setCookie => "set_cookie"
  | notExpected => "setcookie_not_expected"

def Code.name : Code → String
  | setCookie => "SetCookie"
  | notExpected => "SetCookieNotExpected"

def Counter.name : Counter → String
  | entriesCreated => "ipcookie_entries_created"
  | fallbackEntered => "ipcookie_fallback_entered"
  | fallbackExpired => "ipcookie_fallback_expired"
  | cookiesAccepted => "ipcookie_cookies_accepted"
  | cookiesRenewed => "ipcookie_cookies_renewed"
  | cookiesRejected => "ipcookie_cookies_rejected"
  | unmarkedReceived => "ipcookie_unmarked_received"
  | setCookieSent => "ipcookie_setcookie_sent"
  | setCookieApplied => "ipcookie_setcookie_applied"
  | setCookieStale => "ipcookie_setcookie_stale"
  | controlReceived => "ipcookie_control_received"
  | controlMalformed => "ipcookie_control_malformed"
  | controlSent code => "ipcookie_control_sent\x7bcode=" ++ code.label ++ "\x7d"
  | controlSendErrors => "ipcookie_control_send_errors"
  | notExpectedForged => "ipcookie_not_expected_forged"
  | spoofDetected => "ipcookie_spoof_detected"
  | securityEvents => "ipcookie_security_events"
  | secretRotations => "ipcookie_secret_rotations"

inductive Effect where
  | send (destination : Ipv6) (message : Message)
  | publish (nodeId : Uuid) (finding : Finding)
  | count (counter : Counter)
  | log (record : Log.Record)
  deriving DecidableEq

namespace Effect

def sent (effects : List Effect) : List (Ipv6 × Message) :=
  effects.filterMap fun
    | send destination message => some (destination, message)
    | _ => none

def findings (effects : List Effect) : List (Uuid × Finding) :=
  effects.filterMap fun
    | publish nodeId finding => some (nodeId, finding)
    | _ => none

def counters (effects : List Effect) : List Counter :=
  effects.filterMap fun
    | count counter => some counter
    | _ => none

def records (effects : List Effect) : List Log.Record :=
  effects.filterMap fun
    | log record => some record
    | _ => none

end Effect

inductive Link where
  | up
  | down (reason : String)
  deriving DecidableEq

def sharedTarget : String := "ipcookie_node::shared"

def engineTarget : String := "ipcookie_node::engine"

def configTarget : String := "ipcookie_node::config"

def eventsTarget : String := "ipcookie_node::events"

def transportTarget : String := "ipcookie_node::transport"

def sendTarget : String := "ipcookie_node::shim::send"

def daemonTarget : String := "ipcookie_node::daemon"

def addressField (ip : Ipv6) : Log.Value := .text (String.ofList ip.render)

/--
Hands a message to the transport. A message that does not get out is only reported: renewal and
fallback make up for lost messages.
-/
def Link.transmit (link : Link) (destination : Ipv6) (message : Message) : Bool × List Effect :=
  match link with
  | up => (true, [.send destination message, .count (.controlSent message.code)])
  | down reason =>
    (false, [
      .count .controlSendErrors,
      .log {
        level := .warn
        target := transportTarget
        message := "Failed to send control message"
        fields := [
          ("dst", addressField destination),
          ("code", .text message.code.name),
          ("error", .text (NodeError.transport reason).render)] }])

def Engine.rotationEffects (e : Engine) : List Effect :=
  [.log {
    level := .info
    target := engineTarget
    message := "Rotated stateless cookie secret"
    fields := [("epoch", .number e.epoch)] },
  .count .secretRotations]

structure Settings where
  timing : Timing
  disabledPrefixes : List Prefix
  unmarked : UnmarkedPolicy
  offeredLog2 : UInt8

structure Node where
  id : Uuid
  settings : Settings
  engine : Engine
  cache : Cache
  forgedReports : Quota
  /-- Whether a user of the table was interrupted while holding it; each later use reports that. -/
  interrupted : Bool

structure Step (α : Type) where
  answer : α
  node : Node
  effects : List Effect

def Config.setUpRecord (capacity : UInt64) : Log.Record where
  level := .info
  target := sharedTarget
  message := "Initialized shared cookie state"
  fields := [("cache_capacity", .number capacity.toNat)]

def PolicyConfig.records (p : PolicyConfig) : List Log.Record :=
  p.malformedPrefixes.map fun text => {
    level := .warn
    target := configTarget
    message := "Failed to parse disabled prefix CIDR"
    fields := [("cidr", .text text), ("error", .text Prefix.parseErrorText)] }

namespace Settings

def ofConfig (c : Config) : Settings where
  timing := ⟨c.protocol.tRecoverSeconds, c.protocol.fallbackLt2, c.protocol.tryLt2⟩
  disabledPrefixes := c.policy.parsedPrefixes
  unmarked := c.policy.unmarkedTraffic
  offeredLog2 := c.protocol.setcookieLifetimeLog2

def policyDisables (s : Settings) (peer : Ipv6) : Bool :=
  s.disabledPrefixes.any (·.contains peer)

end Settings

namespace Node

def attach (id : Uuid) (c : Config) (engine : Engine) (cache : Cache) : Node where
  id := id
  settings := .ofConfig c
  engine := engine
  cache := cache
  forgedReports := .perMinute (max c.daemon.forgedLogPerMinute.toNat 1)
  interrupted := false

/-- A node with an empty table, once the memory for it is there. -/
def create (id : Uuid) (c : Config) (engine : Engine) : Node :=
  attach id c engine (.empty c.cache.capacity.toNat)

def create? (id : Uuid) (c : Config) (engine : Engine) : Option Node :=
  (Cache.create? c.cache.capacity.toNat).map (attach id c engine)

def creationRecords (c : Config) : List Log.Record :=
  Config.setUpRecord c.cache.capacity :: c.policy.records

def tableUse (n : Node) : List Effect :=
  if n.interrupted then
    [.log {
      level := .warn
      target := sharedTarget
      message := "Cache mutex was poisoned, recovering" }]
  else []

def elapse (n : Node) (nanoseconds : Nat) : Step Unit :=
  ⟨(), { n with forgedReports := n.forgedReports.elapse nanoseconds }, []⟩

/-- A user of the table is interrupted while holding it. The table stays as it is. -/
def interrupt (n : Node) : Step Unit :=
  ⟨(), { n with interrupted := true }, n.tableUse⟩

def policyDisables (n : Node) (peer : Ipv6) : Bool :=
  n.settings.policyDisables peer

def rotate (n : Node) (drawn : SecretKey) : Step Nat :=
  let engine := n.engine.rotate drawn
  ⟨engine.epoch, { n with engine }, engine.rotationEffects⟩

end Node

end SourceCookie

import SourceCookie.Entry
import SourceCookie.Net.Endpoint
import SourceCookie.Net.Prefix

/-!
The settings of a node, by section, with their defaults, and the check that the daemon makes before
it takes them at face value.
-/

namespace SourceCookie

structure ProtocolConfig where
  /-- Seconds allowed for a new cookie to come before sending falls back. -/
  tRecoverSeconds : UInt64 := 3
  /-- Exponent of the period without cookies after a renewal that failed. -/
  fallbackLt2 : UInt8 := 8
  /-- Exponent of the lifetime of a cookie that is tried again after such a period. -/
  tryLt2 : UInt8 := 3
  setcookieLifetimeLog2 : UInt8 := 6
  deriving DecidableEq

structure CacheConfig where
  capacity : UInt64 := 4096
  deriving DecidableEq

inductive UnmarkedPolicy where
  | pass
  | drop
  deriving DecidableEq

structure PolicyConfig where
  disabledPrefixes : List String := []
  unmarkedTraffic : UnmarkedPolicy := .pass
  deriving DecidableEq

structure RotationConfig where
  enabled : Bool := true
  intervalSeconds : UInt64 := 64
  deriving DecidableEq

structure DaemonConfig where
  forgedLogPerMinute : UInt32 := 10
  /-- Milliseconds for which a request to stop may go unnoticed. -/
  recvTimeoutMs : UInt64 := 500
  deriving DecidableEq

structure MetricsConfig where
  enabled : Bool := false
  listenAddr : String := "127.0.0.1:9464"
  deriving DecidableEq

structure LoggingConfig where
  level : String := "info"
  format : String := "text"
  includeThreadId : Bool := true
  deriving DecidableEq

structure Config where
  protocol : ProtocolConfig := {}
  cache : CacheConfig := {}
  policy : PolicyConfig := {}
  rotation : RotationConfig := {}
  daemon : DaemonConfig := {}
  metrics : MetricsConfig := {}
  logging : LoggingConfig := {}
  deriving DecidableEq

namespace PolicyConfig

def parsedPrefixes (p : PolicyConfig) : List Prefix :=
  p.disabledPrefixes.filterMap fun text => Prefix.parse? text.toList

def malformedPrefixes (p : PolicyConfig) : List String :=
  p.disabledPrefixes.filter fun text => (Prefix.parse? text.toList).isNone

end PolicyConfig

namespace Config

def metricsEndpoint? (c : Config) : Option Endpoint :=
  Endpoint.parse? c.metrics.listenAddr.toList

inductive TimedField where
  | fallback
  | retry
  | offered
  deriving DecidableEq

def TimedField.name : TimedField → String
  | fallback => "fallback_lt2"
  | retry => "try_lt2"
  | offered => "setcookie_lifetime_log2"

def TimedField.value (c : Config) : TimedField → UInt8
  | fallback => c.protocol.fallbackLt2
  | retry => c.protocol.tryLt2
  | offered => c.protocol.setcookieLifetimeLog2

inductive Invalid where
  | zeroCapacity
  | endlessLifetime (field : TimedField) (value : UInt8)
  | zeroRotationInterval
  | malformedPrefix (text : String)
  | malformedListenAddr (text : String)
  | unknownLogFormat (text : String)
  deriving DecidableEq

def Invalid.render : Invalid → String
  | zeroCapacity => "Cache capacity cannot be 0"
  | endlessLifetime field value =>
    "protocol." ++ field.name ++ " must be below " ++ toString Lifetime.infiniteLog2.toNat
      ++ ", got " ++ toString value.toNat
  | zeroRotationInterval => "Rotation interval cannot be 0 when rotation is enabled"
  | malformedPrefix text => "Invalid disabled prefix: " ++ text
  | malformedListenAddr text => "Invalid metrics listen address: " ++ text
  | unknownLogFormat text => "Unknown log format: " ++ text

def fault? (c : Config) : Option Invalid :=
  if c.cache.capacity = 0 then some .zeroCapacity
  else if let some field :=
      [TimedField.fallback, .retry, .offered].find? (Lifetime.infiniteLog2 ≤ ·.value c) then
    some (.endlessLifetime field (field.value c))
  else if c.rotation.enabled ∧ c.rotation.intervalSeconds = 0 then some .zeroRotationInterval
  else if let some text := c.policy.malformedPrefixes.head? then some (.malformedPrefix text)
  else if c.metrics.enabled ∧ c.metricsEndpoint? = none then
    some (.malformedListenAddr c.metrics.listenAddr)
  else if c.logging.format ≠ "text" ∧ c.logging.format ≠ "json" then
    some (.unknownLogFormat c.logging.format)
  else none

def validate (c : Config) : Except Invalid Unit :=
  match c.fault? with
  | some fault => .error fault
  | none => .ok ()

end Config

end SourceCookie

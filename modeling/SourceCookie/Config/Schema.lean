import SourceCookie.Config.Basic

/-!
The settings by name: which sections there are, which settings each has, and of which kind they are.
Everything that reads or writes settings goes through these lists, so that all forms of settings
agree on names and order.
-/

namespace SourceCookie

inductive Kind where
  | natural64
  | natural32
  | natural8
  | flag
  | text
  | texts
  | unmarked
  deriving DecidableEq

abbrev Kind.Carrier : Kind → Type
  | natural64 => UInt64
  | natural32 => UInt32
  | natural8 => UInt8
  | flag => Bool
  | text => String
  | texts => List String
  | unmarked => UnmarkedPolicy

def UnmarkedPolicy.name : UnmarkedPolicy → String
  | pass => "pass"
  | drop => "drop"

def UnmarkedPolicy.ofName? (name : String) : Option UnmarkedPolicy :=
  [pass, drop].find? (·.name = name)

structure Setting where
  name : String
  kind : Kind
  get : Config → kind.Carrier
  put : kind.Carrier → Config → Config

structure Section where
  name : String
  typeName : String
  settings : List Setting

namespace Config

def protocolSection : Section where
  name := "protocol"
  typeName := "ProtocolConfig"
  settings := [
    ⟨"t_recover_seconds", .natural64, (·.protocol.tRecoverSeconds),
      fun x c => { c with protocol.tRecoverSeconds := x }⟩,
    ⟨"fallback_lt2", .natural8, (·.protocol.fallbackLt2),
      fun x c => { c with protocol.fallbackLt2 := x }⟩,
    ⟨"try_lt2", .natural8, (·.protocol.tryLt2), fun x c => { c with protocol.tryLt2 := x }⟩,
    ⟨"setcookie_lifetime_log2", .natural8, (·.protocol.setcookieLifetimeLog2),
      fun x c => { c with protocol.setcookieLifetimeLog2 := x }⟩]

def cacheSection : Section where
  name := "cache"
  typeName := "CacheConfig"
  settings := [
    ⟨"capacity", .natural64, (·.cache.capacity), fun x c => { c with cache.capacity := x }⟩]

def policySection : Section where
  name := "policy"
  typeName := "PolicyConfig"
  settings := [
    ⟨"disabled_prefixes", .texts, (·.policy.disabledPrefixes),
      fun x c => { c with policy.disabledPrefixes := x }⟩,
    ⟨"unmarked_traffic", .unmarked, (·.policy.unmarkedTraffic),
      fun x c => { c with policy.unmarkedTraffic := x }⟩]

def rotationSection : Section where
  name := "rotation"
  typeName := "RotationConfig"
  settings := [
    ⟨"enabled", .flag, (·.rotation.enabled), fun x c => { c with rotation.enabled := x }⟩,
    ⟨"interval_seconds", .natural64, (·.rotation.intervalSeconds),
      fun x c => { c with rotation.intervalSeconds := x }⟩]

def daemonSection : Section where
  name := "daemon"
  typeName := "DaemonConfig"
  settings := [
    ⟨"forged_log_per_minute", .natural32, (·.daemon.forgedLogPerMinute),
      fun x c => { c with daemon.forgedLogPerMinute := x }⟩,
    ⟨"recv_timeout_ms", .natural64, (·.daemon.recvTimeoutMs),
      fun x c => { c with daemon.recvTimeoutMs := x }⟩]

def metricsSection : Section where
  name := "metrics"
  typeName := "MetricsConfig"
  settings := [
    ⟨"enabled", .flag, (·.metrics.enabled), fun x c => { c with metrics.enabled := x }⟩,
    ⟨"listen_addr", .text, (·.metrics.listenAddr), fun x c => { c with metrics.listenAddr := x }⟩]

def loggingSection : Section where
  name := "logging"
  typeName := "LoggingConfig"
  settings := [
    ⟨"level", .text, (·.logging.level), fun x c => { c with logging.level := x }⟩,
    ⟨"format", .text, (·.logging.format), fun x c => { c with logging.format := x }⟩,
    ⟨"include_thread_id", .flag, (·.logging.includeThreadId),
      fun x c => { c with logging.includeThreadId := x }⟩]

def sections : List Section := [
  protocolSection, cacheSection, policySection, rotationSection, daemonSection, metricsSection,
  loggingSection]

end Config

end SourceCookie

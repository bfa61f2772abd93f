import SourceCookie.Config.Load
import SourceCookie.Log.Filter
import SourceCookie.Log.Line
import SourceCookie.Node.Basic

/-!
The daemon from its start to its end, as far as its own log and its exit code show it. What the host
refuses and how the daemon's tasks come to an end are inputs; what the tasks log meanwhile is not told here.
-/

namespace SourceCookie

inductive StartError where
  | invalidConfig (fault : Config.Invalid)
  | unreadableListenAddr
  | exporterRefused (fault : String)
  | channelRefused (fault : String)
  | noSignal (fault : String)
  deriving DecidableEq

namespace StartError

def context : StartError → String
  | invalidConfig _ => "Invalid configuration"
  | unreadableListenAddr => "Invalid metrics listen address"
  | exporterRefused _ => "Failed to install Prometheus exporter"
  | channelRefused _ => "Failed to open ICMPv6 channel (needs CAP_NET_RAW)"
  | noSignal _ => "Failed to listen for shutdown signal"

def cause : StartError → String
  | invalidConfig fault => fault.render
  | unreadableListenAddr => Endpoint.parseErrorText
  | exporterRefused fault =>
    "failed to create HTTP listener: error creating server listener: " ++ fault
  | channelRefused fault =>
    (NodeError.transport ("Failed to create ICMPv6 transport channel: " ++ fault)).render
  | noSignal fault => fault

def indent (s : String) : String :=
  "    " ++ "\n    ".intercalate (s.splitOn "\n")

def render (e : StartError) : String :=
  "Error: " ++ e.context ++ "\n\nCaused by:\n" ++ indent e.cause ++ "\n"

end StartError

inductive Daemon.Ending where
  | failed (error : StartError)
  | panicked
  | stopped
  deriving DecidableEq

namespace Daemon.Ending

def exitCode : Ending → Nat
  | failed _ => 1
  | panicked => 101
  | stopped => 0

/-- What is written to standard error, less the place in the program that a panic names. -/
def errorText : Ending → String
  | failed error => error.render
  | panicked => "capacity overflow\n"
  | stopped => ""

end Daemon.Ending

structure StartReport where
  records : List Log.Record
  style : Log.Style
  ignored : List (String × Log.Directive.Fault)
  ending : Daemon.Ending

namespace StartReport

def exitCode (r : StartReport) : Nat := r.ending.exitCode

def errorText (r : StartReport) : String :=
  String.join (r.ignored.map fun (part, fault) =>
    "ignoring \x60" ++ part ++ "\x60: " ++ fault.render ++ "\n") ++ r.ending.errorText

end StartReport

namespace Daemon

inductive Task where
  | receiveLoop
  | rotation
  | eventLogger
  deriving DecidableEq

def Task.name : Task → String
  | receiveLoop => "Receive loop"
  | rotation => "Rotation task"
  | eventLogger => "Event logger"

/-- What the host does to a daemon that runs there, with the reasons that it gives. -/
structure Surroundings where
  listenFault? : Endpoint → Option String
  channelFault? : Option String
  signalFault? : Option String
  taskFault? : Task → Option String
  nodeId : Uuid

def Surroundings.unprivileged : Surroundings where
  listenFault?
    | .v4 _ _ => none
    | .v6 address _ _ =>
      if address = default || address.mapped?.isSome then none
      else some "Cannot assign requested address (os error 99)"
  channelFault? := some "Operation not permitted (os error 1)"
  signalFault? := none
  taskFault? _ := none
  nodeId := .nil

def target : String := "ipcookied"

def libraryTarget : String := "ipcookie_node"

def version : String := "0.1.0"

def defaultPath : String := "config/default"

def record (level : Log.Level) (message : String) (fields : List (String × Log.Value))
    : Log.Record :=
  { level, target, message, fields }

def loadRecord (path : String) : Except LoadError Config → Log.Record
  | .ok _ => record .info "Configuration loaded" [("path", .text path)]
  | .error e =>
    record .warn
      ("Failed to load config file " ++ path ++ ": " ++ e.render ++ ", using defaults") []

def levelFilter (level : String) : String :=
  target ++ "=" ++ level ++ "," ++ libraryTarget ++ "=" ++ level

def filter (given : Option String) (level : String) : Log.Filter × List (String × Log.Directive.Fault) :=
  match given.bind Log.Filter.parse? with
  | some f => (f, [])
  | none => Log.Filter.parseLenient (levelFilter level)

def startExporter (host : Surroundings) (c : Config) : List Log.Record × Option StartError :=
  if !c.metrics.enabled then ([], none)
  else match c.metricsEndpoint? with
    | none => ([], some .unreadableListenAddr)
    | some e =>
      match host.listenFault? e with
      | some fault => ([], some (.exporterRefused fault))
      | none =>
        ([record .info "Prometheus metrics exporter started"
          [("metrics_addr", .text (String.ofList e.render))]], none)

def rotationRecord (c : Config) : Log.Record :=
  if c.rotation.enabled then
    record .info "Secret rotation enabled"
      [("interval_seconds", .number c.rotation.intervalSeconds.toNat)]
  else record .warn "Secret rotation disabled, cookies never expire on the receive side" []

def Task.records (host : Surroundings) (task : Task) : List Log.Record :=
  match host.taskFault? task with
  | some fault => [record .error (task.name ++ " terminated abnormally") [("error", .text fault)]]
  | none => []

def tasks (c : Config) : List Task :=
  if c.rotation.enabled then [.receiveLoop, .rotation, .eventLogger] else [.receiveLoop, .eventLogger]

def serve (host : Surroundings) (c : Config) : List Log.Record × Ending :=
  match host.channelFault? with
  | some fault => ([], .failed (.channelRefused fault))
  | none =>
    let running := [
      { level := .info, target := transportTarget, message := "ICMPv6 control transport initialized" },
      record .info "IP cookie daemon running" [("node_id", .text (String.ofList host.nodeId.render))]]
    match host.signalFault? with
    | some fault => (running, .failed (.noSignal fault))
    | none =>
      (running ++ record .info "Shutdown signal received" [] :: (tasks c).flatMap (Task.records host)
        ++ [record .info "IP cookie daemon stopped" []], .stopped)

def setUp (host : Surroundings) (c : Config) : List Log.Record × Ending :=
  let record := Config.setUpRecord c.cache.capacity
  match Cache.create? c.cache.capacity.toNat with
  | none => ([record], .panicked)
  | some _ =>
    let (records, ending) := serve host c
    (record :: rotationRecord c :: records, ending)

def run (host : Surroundings) (c : Config) : List Log.Record × Ending :=
  match c.validate with
  | .error fault => ([], .failed (.invalidConfig fault))
  | .ok _ =>
    match startExporter host c with
    | (records, some error) => (records, .failed error)
    | (records, none) =>
      let (more, ending) := setUp host c
      (records ++ more, ending)

def start (host : Surroundings) (path : String) (loaded : Except LoadError Config)
    (givenFilter : Option String) : StartReport :=
  let c := loaded.toOption.getD {}
  let (shown, ignored) := filter givenFilter c.logging.level
  let (records, ending) := run host c
  let all :=
    record .info ("Starting IP cookie daemon v" ++ version) [] :: loadRecord path loaded :: records
  { records := all.filter shown.shows
    style := {
      format := if c.logging.format = "json" then .json else .text
      threadIds := c.logging.includeThreadId }
    ignored
    ending }

end Daemon

end SourceCookie

import RelationGate.Config.Settings
import RelationGate.Daemon.CommandLine
import RelationGate.Daemon.LogFilter
import RelationGate.SocketAddress

/-!
# The start of the daemon

The daemon reads its arguments and its settings, logs what it is about to do, finds out how tokens
are verified, and then listens. Whatever stops it before that ends the program: refused arguments
with status 2, anything else with status 1. Nothing is logged before the settings are known, because
they say what is logged.
-/

namespace RelationGate.Daemon

open Text

/-- Where the settings are if the arguments do not tell. -/
def defaultConfig : String := "permgate.toml"

/-- The path of the settings. -/
def Arguments.configPath (a : Arguments) : String := a.config.getD defaultConfig

/-- The settings with what the arguments set in their place. -/
def Arguments.override (a : Arguments) (s : DaemonSettings) : DaemonSettings :=
  let server := s.server
  { s with server := { server with
    host := a.host.getD server.host, port := a.port.getD server.port } }

/-- What stops the daemon before it listens. -/
inductive StopCause where
  | config (fault : ConfigFault)
  | listen (fault : ListenFault)
  deriving DecidableEq, Repr

instance : Render StopCause where
  render
    | .config fault => render fault
    | .listen .address => renderTuple "AddrParseError" ["Socket"]
    | .listen (.unavailable _) =>
      renderTuple "tonic::transport::Error"
        ["Transport", renderRecord "Os"
          [("code", "99"), ("kind", "AddrNotAvailable"),
            ("message", quoted "Cannot assign requested address")]]

/-- A daemon that is ready to listen. -/
structure Service where
  settings : DaemonSettings
  auth : Option AuthSettings
  address : SocketAddress

/-- The start of the daemon: what is logged, what is said about the log level, and what comes of it. -/
structure Startup where
  log : List Event := []
  complaints : List String := []
  outcome : Except StopCause Service

/-- An event of the daemon itself. -/
def event (level : Level) (message : String) : Event := ⟨level, "permgate_daemon", message, []⟩

/-- An event of the server. -/
def serverEvent (message : String) : Event := ⟨.info, "permgate_rpc::server", message, []⟩

/-- The events before it is known how tokens are verified. -/
def openingEvents (path : String) (found : Bool) (s : DaemonSettings) : List Event :=
  [if found then event .info ("Loaded configuration from " ++ path)
    else event .warn ("Config file " ++ path ++ " not found. Using defaults."),
   event .info "permgate daemon v0.1.0",
   event .info ("RPC endpoint: " ++ s.server.host ++ ":" ++ toString s.server.port.toNat),
   event .info ("Lookup ceiling: " ++ toString s.lookup.maxLimit.toNat ++
     ", channel capacity: " ++ toString s.lookup.buffer.toNat)]

/-- The event once it is known how tokens are verified. -/
def authEvent : Option AuthSettings → Event
  | some a => event .info ("Bearer-token auth enabled (" ++ render a.algorithm ++ ")")
  | none => event .warn "Bearer-token auth disabled"

/-- The address that a server with some settings listens at. -/
def listenAddress (s : ServerSettings) : Except ListenFault SocketAddress :=
  match SocketAddress.ofText? (s.host ++ ":" ++ toString s.port.toNat) with
  | none => .error .address
  | some a => if a.isOwn then .ok a else .error (.unavailable a)

/-- The events when the server is about to listen. -/
def listenEvents : Except ListenFault SocketAddress → List Event
  | .ok a | .error (.unavailable a) =>
    [serverEvent ("permgate RPC server starting on " ++ a.text)]
  | .error .address => []

/-- Starts the daemon. -/
def start (files : Files) (a : Arguments) : Startup :=
  match DaemonSettings.loadOptional files a.configPath with
  | .error fault => { outcome := .error (.config fault) }
  | .ok loaded =>
    let settings := a.override (loaded.getD {})
    let filter := LogFilter.ofText settings.logLevel
    let logged (events : List Event) : List Event := events.filter filter.admits
    let opening := openingEvents a.configPath loaded.isSome settings
    match settings.authSettings files with
    | .error fault =>
      { log := logged opening, complaints := filter.complaints, outcome := .error (.config fault) }
    | .ok auth =>
      let address := listenAddress settings.server
      { log := logged (opening ++ authEvent auth :: listenEvents address)
        complaints := filter.complaints
        outcome :=
          match address with
          | .error fault => .error (.listen fault)
          | .ok address => .ok { settings, auth, address } }

/-! ## What is seen of it -/

/-- The line of an event. -/
def eventLine (e : Event) : String := e.level.label ++ " " ++ e.source ++ ": " ++ e.message

/-- What the program writes and how it ends, if it ends before it listens. -/
structure Report where
  /-- The status, or none if the daemon goes on to listen. -/
  status : Option Nat
  output : List String := []
  errors : String := ""
  deriving DecidableEq, Repr

/-- The files that a start reads: the settings, and the public key that they name. -/
def Arguments.paths (a : Arguments) (files : Files) : List String :=
  a.configPath ::
    match DaemonSettings.loadOptional files a.configPath with
    | .ok (some s) => s.auth.publicKeyPath.toList
    | _ => []

/-- What is seen of a start. -/
def Startup.report (s : Startup) : Report :=
  let complaints := String.join (s.complaints.map (· ++ "\n"))
  let output := s.log.map eventLine
  match s.outcome with
  | .error cause =>
    { status := some 1, output, errors := complaints ++ "Error: " ++ render cause ++ "\n" }
  | .ok _ => { status := none, output, errors := complaints }

/-- What is seen of the program with some arguments. -/
def report (files : Files) (arguments : List String) : Report :=
  match Command.ofArguments arguments with
  | .error fault => { status := some 2, errors := fault.message }
  | .ok (.display switch) => { status := some 0, output := switch.shown }
  | .ok (.run a) => (start files a).report

end RelationGate.Daemon

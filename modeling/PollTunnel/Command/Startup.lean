import PollTunnel.Command.Arguments
import PollTunnel.Config.Loading
import PollTunnel.Http.Gateway
import PollTunnel.Tunnel.Client

/-!
# Starting a side of the tunnel

`start` turns arguments into a `Service` that is ready to run, or into the `Failure` that ends the
program.  On the way it tells the log what it does (`Startup.log`).  What it needs from the machine
is a `Host`: the files, and the sockets that may be bound.

* `configure` — the configuration: the file, then what the arguments set, then all rules.
* `Service.farewell` — what the log is told when the service is asked to stop.
* `visible` — an event passes the level that is configured.
-/

set_option autoImplicit false

namespace PollTunnel
namespace Command

/-- The name of the program. -/
def programName : String := "devtunnel"

def programVersion : String := "0.1.0"

/-- The answer to a question for the version. -/
def versionText : String := programName ++ " " ++ programVersion

/-- The machine that the program runs on. -/
structure Host where
  files : Files
  /-- Bind a socket to an address; the address that it got. -/
  bind : SocketAddress → Except IoError SocketAddress

/-! ## Failures -/

/-- Why the program ends before anything runs. -/
inductive Failure where
  | config (cause : Config.Error)
  | setup (cause : Gateway.SetupError)
  | tunnel (cause : Tunnel.Error)
  /-- The field of a secret has no proper name. -/
  | headerName
  /-- A token or a secret cannot stand in a field. -/
  | headerValue
  | io (cause : IoError)

/-- The full form of a failure, if it is told at all. -/
def Failure.detail? : Failure → Option String
  | .config cause => some cause.detail
  | .setup (.timeouts cause) => some cause.detail
  | .setup (.access cause) => some cause.detail
  | .setup (.path _) => none
  | .tunnel cause => some cause.detail
  | .headerName => some "InvalidHeaderName"
  | .headerValue => some "InvalidHeaderValue"
  | .io cause => some cause.detail

/-- The line that the program ends with. -/
def Failure.line? (f : Failure) : Option String := f.detail?.map ("Error: " ++ ·)

/-- The status that the program exits with.  A path that is no pattern ends it abnormally. -/
def Failure.code : Failure → Nat
  | .setup (.path _) => 101
  | _ => 1

/-! ## The configuration -/

/-- Put what the arguments set in place of what is configured. -/
def Side.apply (side : Side) (config : Config) : Config :=
  match side with
  | .serve o =>
    { config with
      server := { config.server with
        bindAddress := o.bind.getD config.server.bindAddress
        targetPort := o.targetPort.getD config.server.targetPort } }
  | .connect o =>
    { config with
      client := { config.client with
        remoteUrl := o.url.getD config.client.remoteUrl
        localPort := o.localPort.getD config.client.localPort } }

/-- The configuration before the arguments change it. -/
def stored (files : Files) (common : CommonOptions) : Except Config.Error Config :=
  match common.config with
  | some path => Config.load files path common.profiles
  | none => .ok {}

/-- The configuration that the program runs with. -/
def configure (files : Files) (a : Arguments) : Except Config.Error Config := do
  let config := a.side.apply (← stored files a.common)
  match config.problems files.contains with
  | [] => return config
  | problems => throw (.validation problems)

/-- The paths that are looked at, as far as that shows from the files that are known. -/
def paths (files : Files) (a : Arguments) : List Location :=
  match a.common.config with
  | none => []
  | some path =>
    let applied :=
      Config.apply (Config.fileLoader files) a.common.profiles {} (Bytes.ofString path)
    let keys : List String := match applied.environment.bind with
      | .ok config => config.security.jwt.toList.filterMap (·.publicKeyLocation)
      | .error _ => []
    applied.asked ++ keys.map Bytes.ofString

/-! ## The log -/

/-- A field with a text. -/
def field (name value : String) : String × Log.Value := (name, .text value)

/-- The log is told this event. -/
def visible (o : Config.Observability) (e : Log.Event) : Bool :=
  match Config.logLevel? o.logLevel with
  | some level => e.level.rank ≤ level.rank
  | none => false

/-- The first thing that the log is told. -/
def starting : Log.Event :=
  { level := .info, message := "devtunnel starting", fields := [field "version" programVersion] }

/-- What becomes of the exporter of metrics, if there is to be one. -/
def exporter (host : Host) (o : Config.Observability) : List Log.Event :=
  if o.metricsEnabled then
    match SocketAddress.ofString? o.metricsAddress with
    | none =>
      [{ level := .error, message := "Failed to parse metrics address"
         fields := [field "metrics_address" o.metricsAddress] }]
    | some address =>
      match host.bind address with
      | .ok _ =>
        [{ level := .info, message := "Metrics exporter listening"
           fields := [field "address" address.text] }]
      | .error e =>
        [{ level := .error, message := "Failed to install metrics exporter"
           fields := [field "address" address.text,
             field "error" ("failed to create HTTP listener: " ++ e.text)] }]
  else []

/-! ## Services -/

/-- A side of the tunnel that is ready to run. -/
inductive Service (σ : Type) where
  /-- The remote side, behind a socket that is bound. -/
  | gateway (gateway : Gateway σ) (target : Tunnel.TargetPort) (address : SocketAddress)
  /-- The local side. -/
  | client (client : Tunnel.Client σ) (address : SocketAddress)

/-- What came of starting. -/
structure Startup (σ : Type) where
  /-- What the log is told, whatever its level. -/
  log : List Log.Event
  result : Except Failure (Service σ)

/-- The gateway that is configured, and the port of its target. -/
def gatewayOf {σ : Type} (files : Files) (config : Config) :
    Except Failure (Gateway σ × Tunnel.TargetPort) := do
  let port ← (Tunnel.TargetPort.make config.server.targetPort).mapError .tunnel
  let gateway ← (Gateway.ofConfig files config).mapError .setup
  return (gateway, port)

/-- What is told before a gateway is made. -/
def loaded (s : Config.Server) : Log.Event :=
  { level := .info, message := "Configuration loaded"
    fields := [field "bind_address" s.bindAddress,
      field "target" (s.targetHost ++ ":" ++ toString s.targetPort),
      ("long_poll_timeout_ms", .number s.longPollMillis),
      ("disconnect_timeout_ms", .number s.disconnectMillis)] }

/-- Bind a socket to an address that is written out. -/
def Host.bindText (host : Host) (text : String) : Except IoError SocketAddress :=
  match SocketAddress.ofString? text with
  | some address => host.bind address
  | none => .error (.worded .invalidInput "invalid socket address syntax")

/-- Start the remote side. -/
def openGateway {σ : Type} (host : Host) (config : Config) : Startup σ :=
  let log := [loaded config.server]
  match gatewayOf host.files config with
  | .error failure => { log, result := .error failure }
  | .ok (gateway, port) =>
    match host.bindText config.server.bindAddress with
    | .error e => { log, result := .error (.io e) }
    | .ok address =>
      let listening : Log.Event :=
        { level := .info, message := "Tunnel endpoint listening"
          fields := [field "address" address.text, field "path" config.server.path,
            field "access" gateway.policy.name] }
      { log := log ++ [listening], result := .ok (.gateway gateway port address) }

/-- A text as a field value. -/
def fieldValue (text : String) : Except Failure Bytes :=
  let value := Bytes.ofString text
  if Headers.isValue value then .ok value else .error .headerValue

/-- The endpoint that the local side sends to, with the token and the secret that it presents. -/
def endpointOf (config : Config) : Except Failure Tunnel.Endpoint := do
  let bare ← (Tunnel.Endpoint.ofUrl config.client.remoteUrl).mapError .tunnel
  let withToken ← match config.client.bearerToken with
    | none => .ok bare
    | some token => do
      return bare.withHeader .authorization (← fieldValue ("Bearer " ++ token))
  match config.security.secret with
  | none => return withToken
  | some secret =>
    match HeaderName.ofString? config.security.secretHeader with
    | none => throw .headerName
    | some name => return withToken.withHeader name (← fieldValue secret)

/-- The address of a port of this machine. -/
def localAddress (port : Nat) : SocketAddress := ⟨.v4 127 0 0 1, port⟩

/-- Start the local side. -/
def openClient {σ : Type} (host : Host) (config : Config) : Startup σ :=
  match endpointOf config with
  | .error failure => { log := [], result := .error failure }
  | .ok endpoint =>
    match host.bind (localAddress config.client.localPort) with
    | .error e => { log := [], result := .error (.tunnel (.listener (.bind e))) }
    | .ok address =>
      let bound : Log.Event :=
        { level := .debug, message := "Listener bound"
          fields := [field "address" address.text,
            ("max_connections", .number Tunnel.Client.limit)] }
      let listening : Log.Event :=
        { level := .info, message := "Listening for tunnel connections"
          fields := [("port", .number address.port), field "remote" endpoint.url.text] }
      let ready : Log.Event :=
        { level := .info, message := "Tunnel client ready"
          fields := [("port", .number address.port), field "remote" config.client.remoteUrl] }
      match (Tunnel.Client.ofEndpoint endpoint).start with
      | .error e => { log := [], result := .error (.tunnel e) }
      | .ok client => { log := [bound, listening, ready], result := .ok (.client client address) }

/-- The address of the port where the metrics are told. -/
def scrapeAddress? (o : Config.Observability) : Option SocketAddress :=
  if o.metricsEnabled then SocketAddress.ofString? o.metricsAddress else none

/-- The address of the port of a side. -/
def Side.address? (side : Side) (config : Config) : Option SocketAddress :=
  match side with
  | .serve _ => SocketAddress.ofString? config.server.bindAddress
  | .connect _ => some (localAddress config.client.localPort)

/-- Start the side that is asked for. -/
def Side.start {σ : Type} (side : Side) (host : Host) (config : Config) : Startup σ :=
  match side with
  | .serve _ => openGateway host config
  | .connect _ => openClient host config

/-- Start a side with a configuration, with the log that the configuration brings. -/
def launch {σ : Type} (host : Host) (side : Side) (config : Config) : Startup σ :=
  let startup := side.start host config
  { startup with log := starting :: exporter host config.observability ++ startup.log }

/-- Start what the arguments ask for. -/
def start {σ : Type} (host : Host) (a : Arguments) : Except Config.Error (Config × Startup σ) := do
  let config ← configure host.files a
  return (config, launch host a.side config)

/-! ## The end -/

/-- What the log is told when a signal asks the service to stop. -/
def Service.stopping {σ : Type} (s : Service σ) : List Log.Event :=
  let side : List Log.Event := match s with
    | .gateway _ _ _ => []
    | .client _ address =>
      [{ level := .info, message := "Stopping tunnel client"
         fields := [("port", .number address.port)] }]
  [{ level := .info, message := "Shutdown signal received" },
    { level := .debug, message := "Shutdown triggered", fields := [("receivers", .number 1)] }] ++
    side

/-- What the log is told when the service has stopped. -/
def Service.stopped {σ : Type} (s : Service σ) : List Log.Event :=
  let side : List Log.Event := match s with
    | .gateway _ _ _ => [{ level := .info, message := "HTTP server stopped" }]
    | .client _ _ => []
  side ++ [{ level := .info, message := "Shutdown complete" }]

/-- What the log is told from the signal to the end of the program. -/
def Service.farewell {σ : Type} (s : Service σ) : List Log.Event := s.stopping ++ s.stopped

end Command
end PollTunnel

import PollTunnel.Live.Running
import PollTunnel.Log.Line
import PollTunnel.Uuid
import Std.Async.DNS
import Std.Async.Signal
import Std.Async.TCP
import Std.Async.Timer
import Std.Sync.Channel
import Std.Time.DateTime.Timestamp

/-!
# The program

The outer layer: it reads files, binds and serves sockets, and does what a service at work wants
done.  Whatever happens comes into one inbox (`Machine.inbox`), and one loop deals with it.
-/

set_option autoImplicit false

namespace PollTunnel
namespace Machine

open Live (Action Event Moment Running Socket)
open Std.Async Std.Async.TCP

/-! ## Failures -/

/-- The number and the words that the system gives to a failure. -/
def numberOf : IO.Error → Nat × String
  | .alreadyExists _ n w | .noFileOrDirectory _ n w | .invalidArgument _ n w
  | .permissionDenied _ n w | .resourceExhausted _ n w | .inappropriateType _ n w
  | .noSuchThing _ n w | .interrupted _ n w => (n.toNat, w)
  | .otherError n w | .resourceBusy n w | .resourceVanished n w | .unsupportedOperation n w
  | .hardwareFault n w | .unsatisfiedConstraints n w | .illegalOperation n w
  | .protocolError n w | .timeExpired n w => (n.toNat, w)
  | .unexpectedEof => (0, "unexpected end of file")
  | .userError w => (0, w)

/-- A failure of the system.  Some numbers come with their sign turned around. -/
def failureOf (e : IO.Error) : IoError :=
  let (number, words) := numberOf e
  IoError.ofCode (if Nat.pow 2 31 < number then Nat.pow 2 32 - number else number) words

/-- The outcome of an action of the system. -/
def outcomeOf {α : Type} : Except IO.Error α → Except IoError α
  | .ok a => .ok a
  | .error e => .error (failureOf e)

/-- Try an action of the system. -/
def attempt {α : Type} (act : IO α) : IO (Except IoError α) := do
  return outcomeOf (← act.toBaseIO)

/-! ## Files -/

/-- What stands at a path.  The arguments are texts, and so is every path that they lead to. -/
def look (path : Location) : IO (Except IoError Files.Node) := do
  match ← attempt (IO.FS.readBinFile path.text) with
  | .ok contents => return .ok (.file contents.toList)
  | .error e => return if e.kind = .isADirectory then .ok .directory else .error e

/-- The files that were looked at. -/
abbrev Seen := List (Location × Except IoError Files.Node)

/-- Files as far as they were looked at. -/
def Seen.files (seen : Seen) : Files := ⟨fun path => (seen.lookup path).getD (.error .missing)⟩

/-- Look at all files that the arguments lead to. -/
partial def gather (a : Command.Arguments) (seen : Seen) : IO Seen := do
  match (Command.paths seen.files a).find? fun path => (seen.lookup path).isNone with
  | none => return seen
  | some path => gather a ((path, ← look path) :: seen)

/-! ## Addresses -/

/-- An address as the system takes it. -/
def systemAddress (a : SocketAddress) : Std.Net.SocketAddress :=
  let port := a.port.toUInt16
  match a.ip with
  | .v4 p q r s => .v4 ⟨.ofParts p.toUInt8 q.toUInt8 r.toUInt8 s.toUInt8, port⟩
  | .v6 groups =>
    let part (i : Nat) : UInt16 := (groups.getD i 0).toUInt16
    .v6 ⟨.ofParts (part 0) (part 1) (part 2) (part 3) (part 4) (part 5) (part 6) (part 7), port⟩

/-- An address as the system gives it. -/
def addressOf : Std.Net.SocketAddress → SocketAddress
  | .v4 a =>
    let part (i : Nat) : Nat := (a.addr.octets.toList.getD i 0).toNat
    ⟨.v4 (part 0) (part 1) (part 2) (part 3), a.port.toNat⟩
  | .v6 a => ⟨.v6 (a.addr.segments.toList.map (·.toNat)), a.port.toNat⟩

/-- A port that sockets come to. -/
structure Port where
  server : TCP.Socket.Server
  address : SocketAddress

/-- The most sockets that wait in line at a port. -/
def backlog : UInt32 := 1024

/-- Bind a socket to an address. -/
def bind (address : SocketAddress) : IO (Except IoError Port) := attempt do
  let server ← TCP.Socket.Server.mk
  server.bind (systemAddress address)
  server.listen backlog
  return { server, address := addressOf (← server.getSockName) }

/-- Bind a socket, if there is an address for it. -/
def bind? : Option SocketAddress → IO (Option (SocketAddress × Except IoError Port))
  | none => return none
  | some address => return some (address, ← bind address)

/-! ## Sockets -/

/-- An open socket, and the end of what is being sent on it. -/
structure Wire where
  client : TCP.Socket.Client
  sending : Task Unit := .pure ()

/-- Everything that the program holds at the system. -/
structure World where
  inbox : Std.CloseableChannel Event
  wires : IO.Ref (List (Socket × Wire))
  /-- How many sockets have come. -/
  count : IO.Ref Nat
  callers : Option Port
  scrapers : Option Port
  /-- The time at which the next alarm is set. -/
  alarm : IO.Ref (Option Nat)
  /-- Write an event to the log. -/
  log : Log.Event → IO Unit

namespace World

/-- Something happens. -/
def post (w : World) (event : Event) : BaseIO Unit := do
  let _ ← w.inbox.send event

/-- Go on when something has come to its end. -/
def whenDone {α : Type} (act : Async α) (next : Except IoError α → IO Unit) : IO Unit := do
  let task : Task (Except IO.Error α) ← act.toIO
  BaseIO.chainTask task fun outcome => do
    let _ ← (next (outcomeOf outcome)).toBaseIO

/-- A socket is open. -/
def plug (w : World) (socket : Socket) (client : TCP.Socket.Client) : IO Unit := do
  let _ ← client.noDelay.toBaseIO
  w.wires.modify fun wires => (socket, { client }) :: wires

/-- Let one more socket come to a port. -/
def accept (w : World) (port : Option Port) (name : Nat → Socket) : IO Unit := do
  match port with
  | none => return
  | some port =>
    whenDone port.server.accept fun outcome => do
      match outcome with
      | .error _ => return
      | .ok client =>
        let number ← w.count.modifyGet fun n => (n + 1, n + 1)
        let peer := addressOf (← client.getPeerName)
        w.plug (name number) client
        w.post (.came (name number) peer)

/-- Open a socket to the first of some addresses that can be reached. -/
def reach (port : Nat) : List Std.Net.IPAddr → Async TCP.Socket.Client
  | [] => throw (.userError "failed to lookup address information")
  | address :: rest => do
    let client ← TCP.Socket.Client.mk
    let whole : Std.Net.SocketAddress := match address with
      | .v4 a => .v4 ⟨a, port.toUInt16⟩
      | .v6 a => .v6 ⟨a, port.toUInt16⟩
    try
      client.connect whole
      return client
    catch e => if rest.isEmpty then throw e else reach port rest

/-- Open a socket to a port of a host. -/
def dial (w : World) (number : Nat) (host : String) (port : Nat) : IO Unit := do
  let connecting : Async TCP.Socket.Client := do
    reach port (← DNS.getAddrInfo host (toString port)).toList
  whenDone connecting fun outcome => do
    match outcome with
    | .error e => w.post (.dialed number (.error e))
    | .ok client =>
      w.plug (.dialed number) client
      w.post (.dialed number (.ok ()))

/-- The socket of that name. -/
def wire? (w : World) (socket : Socket) : IO (Option Wire) := do
  return (← w.wires.get).lookup socket

/-- Ask for bytes. -/
def receive (w : World) (socket : Socket) : IO Unit := do
  match ← w.wire? socket with
  | none => return
  | some wire =>
    whenDone (wire.client.recv? bufferSize.toUInt64) fun outcome =>
      w.post (.received socket (outcome.map fun bytes => (bytes.map ByteArray.toList).getD []))

/-- Do something with a socket behind everything that is being sent on it. -/
def behind (w : World) (socket : Socket) (act : TCP.Socket.Client → Async Unit)
    (next : Except IoError Unit → IO Unit) : IO Unit := do
  match ← w.wire? socket with
  | none => return
  | some wire =>
    let sending ← BaseIO.bindTask wire.sending fun _ => do
      match ← (act wire.client).toIO.toBaseIO with
      | .error e =>
        let _ ← (next (.error (failureOf e))).toBaseIO
        return .pure ()
      | .ok task =>
        let task : Task (Except IO.Error Unit) := task
        BaseIO.mapTask (fun outcome => do
          let _ ← (next (outcomeOf outcome)).toBaseIO) task
    w.wires.modify fun wires =>
      wires.map fun row => if row.1 = socket then (socket, { wire with sending }) else row

/-- Send bytes. -/
def send (w : World) (socket : Socket) (bytes : Bytes) : IO Unit :=
  w.behind socket (fun client => client.send (ByteArray.mk bytes.toArray)) fun outcome => do
    match outcome with
    | .ok () => return
    | .error e => w.post (.broke socket e)

/-- Close a socket when everything is sent. -/
def close (w : World) (socket : Socket) : IO Unit := do
  let wire ← w.wire? socket
  w.behind socket (fun client => client.shutdown) fun _ => do
    match wire with
    | none => return
    | some wire =>
      let _ ← wire.client.native.cancelRecv.toBaseIO
  w.wires.modify fun wires => wires.filter (·.1 ≠ socket)

/-! ## The loop -/

/-- Do what a service wants done. -/
def perform (w : World) : Action → IO Unit
  | .accept => w.accept w.callers .caller
  | .acceptScraper => w.accept w.scrapers .scraper
  | .dial number host port => w.dial number host port
  | .receive socket => w.receive socket
  | .send socket bytes => w.send socket bytes
  | .close socket => w.close socket
  | .log event => w.log event

/-- The moment that it is now. -/
def now : IO Moment := do
  let random ← IO.getRandomBytes 32
  let octets := random.toList
  return {
    clock := ← IO.monoNanosNow
    wall := (← Std.Time.Timestamp.now).toSecondsSinceUnixEpoch.val.toNat.toUInt64
    requestId := Bytes.ofString (Uuid.text (octets.take 16))
    sessionId := Uuid.text (octets.drop 16) }

/-- Set the alarm, unless there is an earlier one. -/
def setAlarm (w : World) (deadline : Option Nat) : IO Unit := do
  match deadline, ← w.alarm.get with
  | none, _ => return
  | some time, earlier =>
    if earlier.any (· ≤ time) then return
    w.alarm.set (some time)
    let millis := (time - (← IO.monoNanosNow)) / 1000000 + 1
    whenDone (Std.Async.sleep (.ofNat millis)) fun _ => do
      w.alarm.modify fun alarm => if alarm = some time then none else alarm
      w.post .due

/-- Deal with one thing after the other until the program has nothing more to do. -/
partial def loop (w : World) (running : Running) : IO Unit := do
  if running.isDone then return
  w.setAlarm running.deadline
  match ← IO.wait (← w.inbox.recv) with
  | none => return
  | some event =>
    let (running, actions) := Running.step (← now) running event
    actions.forM w.perform
    w.loop running

end World

/-! ## From the arguments to the end -/

/-- Write an event to the log, if it is to be told. -/
def logTo (config : Config) (event : Log.Event) : IO Unit := do
  if Command.visible config.observability event then
    let nanos := (← Std.Time.Timestamp.now).toNanosecondsSinceUnixEpoch.val.toNat
    IO.println (event.line config.observability.jsonLogs (nanos / 1000))
    (← IO.getStdout).flush

/-- Let a service work until it is asked to end. -/
def serve (config : Config) (service : Command.Service Link) (callers scrapers : Option Port) :
    IO Unit := do
  let log := logTo config
  let w : World := {
    inbox := ← Std.CloseableChannel.new none
    wires := ← IO.mkRef []
    count := ← IO.mkRef 0
    callers, scrapers
    alarm := ← IO.mkRef none
    log }
  let interrupt ← Signal.Waiter.mk .sigint true
  let interrupted : Task (Except IO.Error Int) ← interrupt.wait
  BaseIO.chainTask interrupted fun _ => w.post .stop
  let (running, actions) := (Running.ofService config service).first (← World.now)
  actions.forM w.perform
  w.loop running
  service.stopped.forM log
  interrupt.stop

/-- Tell a failure. -/
def complain (failure : Command.Failure) : IO UInt32 := do
  match failure.line? with
  | some line => IO.eprintln line
  | none => return failure.code.toUInt32
  return failure.code.toUInt32

/-- Do what the arguments ask for. -/
def run (a : Command.Arguments) : IO UInt32 := do
  let files := (← gather a []).files
  match Command.configure files a with
  | .error e => complain (.config e)
  | .ok config =>
    let scrapers ← bind? (Command.scrapeAddress? config.observability)
    let callers ← bind? (a.side.address? config)
    let bound := scrapers.toList ++ callers.toList
    let host : Command.Host := {
      files
      bind := fun address =>
        ((bound.lookup address).getD (.error .notAvailable)).map (·.address) }
    let startup : Command.Startup Link := Command.launch host a.side config
    startup.log.forM (logTo config)
    match startup.result with
    | .error failure => complain failure
    | .ok service =>
      let port? (row : Option (SocketAddress × Except IoError Port)) : Option Port :=
        row.bind fun (_, port) => port.toOption
      serve config service (port? callers) (port? scrapers)
      return 0

end Machine
end PollTunnel

/-- The program. -/
def main (args : List String) : IO UInt32 := do
  match PollTunnel.Command.Arguments.read args with
  | .ok a => PollTunnel.Machine.run a
  | .error .usage => do
    IO.eprintln PollTunnel.Command.usage
    return PollTunnel.Command.Stop.usage.code.toUInt32
  | .error .help => do
    IO.println PollTunnel.Command.usage
    return PollTunnel.Command.Stop.help.code.toUInt32
  | .error .version => do
    IO.println PollTunnel.Command.versionText
    return PollTunnel.Command.Stop.version.code.toUInt32

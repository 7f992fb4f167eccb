import PollTunnel.Http.Wire
import PollTunnel.Live.Basic
import PollTunnel.Net.Link
import PollTunnel.Tunnel.Client

/-!
# The local side at work

`Local` is a client with its local sockets, and with the requests of its channels on their way to
the remote side (`Local.Exchange`), each on a socket of its own.

`Local.step` deals with one event and then does what there is to do without another one
(`Local.work?`, `Local.perform`), one thing after the other.

* A local socket is closed once it is done with and no request of its channel is under way.
* When the service is asked to end, the requests that end sessions are still waited for, but not
  for longer than `Local.stopTimeout`.
-/

set_option autoImplicit false

namespace PollTunnel
namespace Live

/-- A request on its way to the remote side. -/
structure Local.Exchange where
  socket : Nat
  /-- The accept call that brought the local socket. -/
  call : Nat
  /-- The number of the request on its channel. -/
  number : Nat
  kind : Tunnel.Channel.Kind
  /-- What has come of the response and is not read yet. -/
  buffer : Bytes := []
  head : Option Wire.Head := none

/-- A local socket. -/
structure Local.Caller where
  socket : Nat
  /-- The accept call that brought it. -/
  call : Nat
  /-- Bytes were asked for, and have not come yet. -/
  receiving : Bool := false
  deriving DecidableEq, Repr

/-- The local side of a tunnel. -/
structure Local where
  client : Tunnel.Client Link
  /-- The time, in nanoseconds. -/
  clock : Nat := 0
  callers : List Local.Caller := []
  exchanges : List Local.Exchange := []
  /-- How many sockets were dialed. -/
  dials : Nat := 0
  /-- A socket was asked for, and has not come yet. -/
  accepting : Bool := false
  /-- The time by which the service ends, once it was asked to. -/
  stopBy : Option Nat := none

namespace Local

/-- The service with what is to be done. -/
abbrev Outcome := Local × List Action

/-- How long requests are waited for when the service is asked to end, in nanoseconds. -/
def stopTimeout : Nat := 5 * Nat.pow 10 9

/-- Where requests go. -/
def url (l : Local) : HttpUrl := l.client.endpoint.url

/-! ## What the client causes -/

/-- Begin a request of a channel. -/
def send (l : Local) (call number : Nat) (kind : Tunnel.Channel.Kind) : Outcome :=
  let socket := l.dials + 1
  ({ l with dials := socket, exchanges := l.exchanges ++ [{ socket, call, number, kind }] },
    [.dial socket l.url.host.name (l.url.port.getD HttpUrl.schemePort)])

/-- The fields that tell of a local socket. -/
def fields (connection : ConnectionId) (peer : SocketAddress) : List (String × String) :=
  [("connection_id", connection.text), ("peer", peer.text)]

/-- Do what the client causes by something that happens for an accept call. -/
def relay (l : Local) (call : Nat) : List Tunnel.Client.Effect → Outcome
  | [] => (l, [])
  | .channel _ (.send number kind) :: rest =>
    let (l, actions) := l.send call number kind
    let (l, more) := relay l call rest
    (l, actions ++ more)
  | .channel _ .closed :: rest =>
    (relay l call rest).map id (note .debug "Closing HTTP tunnel" [("url", l.url.text)] :: ·)
  | .begun connection peer :: rest =>
    (relay l call rest).map id
      (note .debug "Tunneling local connection" (fields connection peer) :: ·)
  | .ended connection peer :: rest =>
    (relay l call rest).map id
      (note .debug "Local connection closed" (fields connection peer) :: ·)
  | .opened _ _ _ :: rest | .closed _ _ _ :: rest => relay l call rest

/-- Something happens to the client for an accept call. -/
def act (l : Local) (call : Nat) (event : Tunnel.Client.Event Link) : Outcome :=
  let (client, effects) := l.client.step event
  { l with client }.relay call effects

/-- Something happens to the channel of an accept call. -/
def channel (l : Local) (call : Nat) (event : Tunnel.Channel.Event Link) : Outcome :=
  l.act call (.channel call event)

/-! ## Local sockets -/

/-- A local socket comes, and is accepted at once. -/
def accept (l : Local) (socket : Nat) (peer : SocketAddress) : Outcome :=
  let call := l.client.call
  let client := ((l.client.step (.connect peer)).1.step .accept).1
  let l := { l with client, accepting := false }
  if (client.visitor? call).isSome then
    ({ l with callers := l.callers ++ [Caller.mk socket call false] },
      [note .debug "Connection accepted" [("peer_addr", peer.text)]])
  else (l, [.close (.caller socket)])

/-- A local socket's row changes. -/
def setCaller (l : Local) (c : Caller) : Local :=
  { l with callers := l.callers.map fun row => if row.socket = c.socket then c else row }

/-- What was written to a local socket, and the service without it. -/
def drain (l : Local) (call : Nat) : Bytes × Local :=
  match l.client.stage? call with
  | some (.serving guard channel) =>
    let (bytes, outlet) := channel.forwarder.outlet.drain
    let forwarder := { channel.forwarder with outlet }
    (bytes, { l with client := l.client.put call (.serving guard { channel with forwarder }) })
  | _ => ([], l)

/-! ## Exchanges -/

/-- An exchange changes. -/
def setExchange (l : Local) (x : Exchange) : Local :=
  { l with exchanges := l.exchanges.map fun row => if row.socket = x.socket then x else row }

/-- An exchange is over. -/
def hangUp (l : Local) (x : Exchange) : Outcome :=
  ({ l with exchanges := l.exchanges.filter (·.socket ≠ x.socket) }, [.close (.dialed x.socket)])

/-- An exchange is over, and its channel is told how it ended. -/
def finish (l : Local) (x : Exchange) (event : Tunnel.Channel.Event Link) : Outcome :=
  let (l, actions) := l.hangUp x
  let (l, more) := l.channel x.call event
  (l, actions ++ more)

/-- The channel of an exchange waits for the body of the response. -/
def wantsBody (l : Local) (x : Exchange) : Bool :=
  (l.client.channel? x.call).any fun channel => (channel.pending.lookup x.number).isSome

/-- Go on with the body of a response. -/
def readBody (l : Local) (x : Exchange) (head : Wire.Head) (ended : Bool) : Outcome :=
  if l.wantsBody x then
    match Wire.readBody Tunnel.Channel.maxResponseSize head.framing ended x.buffer with
    | .more => (l.setExchange x, [.receive (.dialed x.socket)])
    | .malformed => l.finish x (.body x.number (.error (.plain .unexpectedEof)))
    | .done body _ => l.finish x (.body x.number (.ok body))
  else l.hangUp x

/-- A status that ends the channel and says nothing about why. -/
def isUnexpected (status : Status) : Bool :=
  status ∉ [Status.ok, Status.noContent, Status.gone, Status.tooManyRequests]

/-- Go on with a response. -/
def read (l : Local) (x : Exchange) (ended : Bool) : Outcome :=
  match x.head with
  | some head => l.readBody x head ended
  | none =>
    match Wire.readHead x.buffer, ended with
    | .more, false => (l.setExchange x, [.receive (.dialed x.socket)])
    | .more, true | .malformed, _ => l.finish x (.fail x.number)
    | .done head rest, ended =>
      let x := { x with head := some head, buffer := rest }
      let warning :=
        if isUnexpected head.status && x.kind ≠ .disconnect then
          [note .warn "Unexpected tunnel response"
            [("status", toString head.status), ("url", l.url.text)]]
        else []
      let (l, actions) := (l.setExchange x).channel x.call (.head x.number head.status head.headers)
      let (l, more) := l.readBody x head ended
      (l, warning ++ actions ++ more)

/-- The remote side was reached, or not. -/
def dialed (l : Local) (x : Exchange) : Except IoError Unit → Outcome
  | .ok () =>
    let request := x.kind.request l.client.endpoint
    (l, [.send (.dialed x.socket) (Wire.writeRequest l.url.authority request),
      .receive (.dialed x.socket)])
  | .error _ =>
    let warning :=
      if x.kind = .disconnect then []
      else [note .warn ("Failed to connect to remote application at " ++ l.url.text)
        [("url", l.url.text)]]
    let (l, actions) := l.finish x (.fail x.number)
    (l, warning ++ actions)

/-! ## What there is to do -/

/-- Something to do without another event. -/
inductive Work where
  /-- Let the task of a local socket go on. -/
  | proceed (call : Nat)
  /-- Open the channel of a local socket. -/
  | serve (call : Nat)
  /-- Be done with a local socket whose channel is closed. -/
  | finish (call : Nat)
  /-- Send on what was written to a local socket. -/
  | send (caller : Caller)
  /-- Ask for what a local socket sends. -/
  | receive (caller : Caller)
  /-- Close a local socket. -/
  | close (caller : Caller)
  /-- Let one more local socket come. -/
  | accept

/-- What there is to do for a local socket. -/
def callerWork? (l : Local) (c : Caller) : Option Work :=
  match l.client.stage? c.call with
  | some (.opening _ told) =>
    some (if told < l.client.audience then .proceed c.call else .serve c.call)
  | some (.serving _ channel) =>
    if channel.forwarder.outlet.blocks ≠ [] then some (.send c)
    else if !channel.isOpen then some (.finish c.call)
    else if c.receiving then none
    else some (.receive c)
  | some .accepted | some (.closing _ _) | some .leaving => some (.proceed c.call)
  | none => if l.exchanges.any (·.call = c.call) then none else some (.close c)

/-- The first thing to do. -/
def work? (l : Local) : Option Work :=
  l.callers.findSome? l.callerWork? <|>
  (if !l.accepting && l.client.isReady then some .accept else none)

/-- Do one thing. -/
def perform (l : Local) : Work → Outcome
  | .proceed call => l.act call (.proceed call)
  | .serve call => l.act call (.serve call {})
  | .finish call => l.act call (.finish call)
  | .send c =>
    let (bytes, l) := l.drain c.call
    (l, [.send (.caller c.socket) bytes])
  | .receive c => (l.setCaller { c with receiving := true }, [.receive (.caller c.socket)])
  | .close c =>
    ({ l with callers := l.callers.filter (·.socket ≠ c.socket) }, [.close (.caller c.socket)])
  | .accept => ({ l with accepting := true }, [.accept])

/-- Do so many things, as long as there is something to do. -/
def settle (l : Local) : Nat → Outcome
  | 0 => (l, [])
  | fuel + 1 =>
    match l.work? with
    | none => (l, [])
    | some work =>
      let (l, actions) := l.perform work
      let (l, more) := settle l fuel
      (l, actions ++ more)

/-! ## Events -/

/-- Be done with everything that is served. -/
def finishAll (l : Local) : List Nat → Outcome
  | [] => (l, [])
  | call :: rest =>
    let (l, actions) := l.act call (.finish call)
    let (l, more) := finishAll l rest
    (l, actions ++ more)

/-- Deal with what a local socket brought. -/
def callerReceived (l : Local) (c : Caller) (outcome : Except IoError Bytes) : Outcome :=
  let l := l.setCaller { c with receiving := false }
  match outcome with
  | .ok [] | .error _ => l.act c.call (.finish c.call)
  | .ok bytes => l.act c.call (.data c.call bytes)

/-- Deal with what came of a response. -/
def exchangeReceived (l : Local) (x : Exchange) : Except IoError Bytes → Outcome
  | .ok bytes => l.read { x with buffer := x.buffer ++ bytes } bytes.isEmpty
  | .error e =>
    match x.head with
    | some _ => l.finish x (.body x.number (.error e))
    | none => l.finish x (.fail x.number)

/-- Deal with an event. -/
def handle (l : Local) : Event → Outcome
  | .came (.caller socket) peer => l.accept socket peer
  | .received (.caller socket) outcome =>
    match l.callers.find? (·.socket = socket) with
    | some c => l.callerReceived c outcome
    | none => (l, [])
  | .broke (.caller socket) cause =>
    match l.callers.find? (·.socket = socket) with
    | some c => l.channel c.call (.device { failure := some cause })
    | none => (l, [])
  | .dialed socket outcome =>
    match l.exchanges.find? (·.socket = socket) with
    | some x => l.dialed x outcome
    | none => (l, [.close (.dialed socket)])
  | .received (.dialed socket) outcome =>
    match l.exchanges.find? (·.socket = socket) with
    | some x => l.exchangeReceived x outcome
    | none => (l, [])
  | .stop =>
    let client := (l.client.step .stop).1
    let l := { l with client, stopBy := some (l.clock + stopTimeout) }
    l.finishAll (client.visitors.map (·.call))
  | .came _ _ | .received _ _ | .broke _ _ | .due => (l, [])

/-- How many things are done behind one event. -/
def patience : Nat := 10000

/-- What an event does at a moment, and all that follows from it. -/
def step (m : Moment) (l : Local) (event : Event) : Outcome :=
  let (l, actions) := { l with clock := m.clock }.handle event
  let (l, more) := l.settle patience
  (l, actions ++ more)

/-- The time by which the service acts if nothing happens before. -/
def deadline (l : Local) : Option Nat := if l.work?.isSome then some l.clock else l.stopBy

/-- The service was asked to end, and every session is told, or the time for that is over. -/
def isDone (l : Local) : Bool :=
  l.stopBy.any fun by_ => l.exchanges.all (·.kind ≠ .disconnect) || by_ ≤ l.clock

end Local
end Live
end PollTunnel

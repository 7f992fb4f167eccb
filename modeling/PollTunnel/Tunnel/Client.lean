import PollTunnel.Net.Listener
import PollTunnel.Net.SocketAddress
import PollTunnel.Net.Tracker
import PollTunnel.Tunnel.Channel

/-!
# The tunnel client

The client listens on a local port and opens a channel for each socket that connects, one at a time:
the others wait in line until the one before them is done with.

A socket that is accepted gets a task of its own, and `Client.Stage` tells how far that has come.
It counts the socket, tells one listener after another that it comes, opens a channel and serves it
until the socket ends, the channel closes or the client stops.  Then it closes the channel, tells
one listener after another that the socket goes, takes it off the count, and gives its slot back.

`Client.step` says what each event does.  Each of these is one step of a task (`Client.proceed`,
`Client.serve`, `Client.finish`), so that the accept call and the end of the client can come between
any two of them.
-/

set_option autoImplicit false

namespace PollTunnel
namespace Tunnel

/-- How far the task of a local socket has come; `σ` is what the socket takes data with. -/
inductive Client.Stage (σ : Type) where
  /-- The socket was accepted. -/
  | accepted
  /-- It is counted, and so many listeners were told that it comes. -/
  | opening (guard : Guard) (told : Nat)
  /-- Its channel is open, or was when the task looked last. -/
  | serving (guard : Guard) (channel : Channel σ)
  /-- Its channel was closed, and so many listeners were told that it goes. -/
  | closing (guard : Guard) (told : Nat)
  /-- It is not counted any more, and still holds its slot. -/
  | leaving

/-- A local socket that was accepted. -/
structure Client.Visitor (σ : Type) where
  /-- The accept call that brought it, which holds its slot. -/
  call : Nat
  peer : SocketAddress
  stage : Client.Stage σ := .accepted

/-- A tunnel client; `σ` is what a local socket takes data with. -/
structure Client (σ : Type) where
  endpoint : Endpoint
  /-- How many listeners are registered. -/
  registered : Nat := 0
  running : Bool := false
  /-- Sockets are accepted.  A client whose accept call failed keeps running without. -/
  listening : Bool := false
  /-- How many listeners are told of local sockets: those that were there when the client started.
  -/
  audience : Nat := 0
  /-- Local sockets that have connected and wait, the oldest first. -/
  backlog : List SocketAddress := []
  /-- The slots of the listener, and who holds them. -/
  slots : Slots := { available := 0 }
  /-- The number of the latest accept call. -/
  call : Nat := 0
  visitors : List (Client.Visitor σ) := []
  connections : Connections := {}
  /-- What the channels counted that are done with. -/
  finished : Metrics := {}

namespace Client

variable {σ : Type}

/-- How many local sockets are served at once. -/
def limit : Nat := 1

/-- The tracker that counts the sockets being served. -/
def tracker : Nat := 0

/-- A client of an endpoint. -/
def ofEndpoint (endpoint : Endpoint) : Client σ := { endpoint }

/-- Register a listener. -/
def addListener (c : Client σ) : Client σ := { c with registered := c.registered + 1 }

/-- Something that happens to a client. -/
inductive Event (σ : Type) where
  /-- The client stops listening. -/
  | stop
  /-- A local socket connects. -/
  | connect (peer : SocketAddress)
  /-- The first socket in line is accepted. -/
  | accept
  /-- The accept call fails, and no other follows. -/
  | fail
  /-- The task of a socket takes a step that waits for nothing. -/
  | proceed (call : Nat)
  /-- The channel of a socket is opened. -/
  | serve (call : Nat) (device : σ)
  /-- A local socket brings data. -/
  | data (call : Nat) (data : Bytes)
  /-- Something happens to the channel of a socket. -/
  | channel (call : Nat) (event : Channel.Event σ)
  /-- A socket is served no longer: it ended or failed, its channel closed, or the client stopped.
  -/
  | finish (call : Nat)

/-- What an event causes outside of the client. -/
inductive Effect where
  /-- A socket is counted from now on. -/
  | begun (connection : ConnectionId) (peer : SocketAddress)
  /-- A listener is told that a socket comes. -/
  | opened (listener : Nat) (connection : ConnectionId) (peer : SocketAddress)
  /-- A listener is told that a socket goes. -/
  | closed (listener : Nat) (connection : ConnectionId) (peer : SocketAddress)
  /-- All listeners were told that a socket goes. -/
  | ended (connection : ConnectionId) (peer : SocketAddress)
  /-- What the channel of a connection causes. -/
  | channel (connection : ConnectionId) (effect : Channel.Effect)

/-- A client with what an event caused. -/
abbrev Outcome (σ : Type) := Client σ × List Effect

/-- How many sockets are counted. -/
def activeConnections (c : Client σ) : Nat := c.connections.active tracker

/-- The socket of an accept call. -/
def visitor? (c : Client σ) (call : Nat) : Option (Visitor σ) := c.visitors.find? (·.call = call)

/-- How far the task of an accept call has come. -/
def stage? (c : Client σ) (call : Nat) : Option (Stage σ) :=
  (c.visitor? call).map Visitor.stage

/-- The task of a call has come to a stage. -/
def put (c : Client σ) (call : Nat) (stage : Stage σ) : Client σ :=
  { c with visitors := c.visitors.map fun v => if v.call = call then { v with stage } else v }

/-- The channel of a socket that is served. -/
def Visitor.channel? (v : Visitor σ) : Option (Channel σ) :=
  match v.stage with
  | .serving _ channel => some channel
  | _ => none

/-- The channel of the socket that is served for a call. -/
def channel? (c : Client σ) (call : Nat) : Option (Channel σ) :=
  (c.visitor? call).bind Visitor.channel?

/-- Everything that was counted so far. -/
def metrics (c : Client σ) : Metrics :=
  (c.visitors.filterMap Visitor.channel?).foldl (fun m channel => m.add channel.metrics) c.finished

/-! ## Accepting -/

/-- Begin the next accept call. -/
def nextCall (c : Client σ) : Client σ :=
  { c with call := c.call + 1, slots := c.slots.step (.begin (c.call + 1)) }

/-- Listen on the local port. -/
def start (c : Client σ) : Except Error (Client σ) :=
  if c.running then .error .alreadyStarted
  else
    .ok { c with
      running := true
      listening := true
      audience := c.registered
      slots := .ofLimit limit
      backlog := [] }.nextCall

/-- The accept call is over, and no other follows: sockets in line are turned away. -/
def deafen (c : Client σ) (event : Slots.Event) : Client σ :=
  { c with listening := false, backlog := [], slots := c.slots.step event }

/-- Stop listening.  The accept call is given up. -/
def stop (c : Client σ) : Client σ :=
  let c := if c.listening then c.deafen (.cancel c.call) else c
  { c with running := false }

/-- A local socket gets in line. -/
def connect (c : Client σ) (peer : SocketAddress) : Client σ :=
  if c.listening then { c with backlog := c.backlog ++ [peer] } else c

/-- The accept call holds a slot and waits for a socket. -/
def isReady (c : Client σ) : Bool := c.listening && c.slots.holding.contains c.call

/-- Accept the first socket in line, if the accept call holds a slot. -/
def accept (c : Client σ) : Client σ :=
  match c.backlog with
  | peer :: rest =>
    if c.isReady then
      { c with
        backlog := rest
        slots := c.slots.step (.accept c.call)
        visitors := c.visitors ++ [Visitor.mk c.call peer .accepted] }.nextCall
    else c
  | [] => c

/-! ## The task of a socket -/

/-- What the channel of a connection causes. -/
def ofChannel (connection : ConnectionId) (effects : List Channel.Effect) : List Effect :=
  effects.map (.channel connection)

/-- Count a socket. -/
def count (c : Client σ) (v : Visitor σ) : Outcome σ :=
  let (guard, connections) := c.connections.track tracker
  ({ c with connections }.put v.call (.opening guard 0), [.begun guard.id v.peer])

/-- Take a socket off the count. -/
def discount (c : Client σ) (v : Visitor σ) (guard : Guard) : Outcome σ :=
  ({ c with connections := c.connections.release guard }.put v.call .leaving,
    [.ended guard.id v.peer])

/-- Give the slot of a socket back: its task is over. -/
def leave (c : Client σ) (v : Visitor σ) : Client σ :=
  { c with
    visitors := c.visitors.filter (·.call ≠ v.call)
    slots := c.slots.step (.release v.call) }

/-- A task takes its next step, if that waits for nothing. -/
def proceed (c : Client σ) (call : Nat) : Outcome σ :=
  match c.visitor? call with
  | none => (c, [])
  | some v =>
    match v.stage with
    | .accepted => c.count v
    | .opening guard told =>
      if told < c.audience then
        (c.put call (.opening guard (told + 1)), [.opened told guard.id v.peer])
      else (c, [])
    | .serving _ _ => (c, [])
    | .closing guard told =>
      if told < c.audience then
        (c.put call (.closing guard (told + 1)), [.closed told guard.id v.peer])
      else c.discount v guard
    | .leaving => (c.leave v, [])

/-- Open the channel of a socket, once all listeners were told of it. -/
def serve (c : Client σ) (call : Nat) (device : σ) : Outcome σ :=
  match c.stage? call with
  | some (.opening guard told) =>
    if told < c.audience then (c, [])
    else
      let (channel, effects) := Channel.begin device
      (c.put call (.serving guard channel), ofChannel guard.id effects)
  | _ => (c, [])

/-- Serve a socket no longer: close its channel. -/
def finish (c : Client σ) (call : Nat) : Outcome σ :=
  match c.stage? call with
  | some (.serving guard channel) =>
    let (channel, effects) := channel.close
    ({ c with finished := c.finished.add channel.metrics }.put call (.closing guard 0),
      ofChannel guard.id effects)
  | _ => (c, [])

/-- Send what a local socket brought; a channel that is closed ends the socket. -/
def data (c : Client σ) (call : Nat) (data : Bytes) : Outcome σ :=
  match c.stage? call with
  | some (.serving guard channel) =>
    match channel.write data with
    | (.error _, _) => c.finish call
    | (.ok _, channel, effects) =>
      (c.put call (.serving guard channel), ofChannel guard.id effects)
  | _ => (c, [])

/-- Something happens to the channel of a socket. -/
def act [Sink σ] (c : Client σ) (call : Nat) (event : Channel.Event σ) : Outcome σ :=
  match c.stage? call with
  | some (.serving guard channel) =>
    let (channel, effects) := channel.step event
    (c.put call (.serving guard channel), ofChannel guard.id effects)
  | _ => (c, [])

/-- What an event does. -/
def step [Sink σ] (c : Client σ) : Event σ → Outcome σ
  | .stop => (c.stop, [])
  | .connect peer => (c.connect peer, [])
  | .accept => (c.accept, [])
  | .fail => (if c.isReady then c.deafen (.fail c.call) else c, [])
  | .proceed call => c.proceed call
  | .serve call device => c.serve call device
  | .data call bytes => c.data call bytes
  | .channel call event => c.act call event
  | .finish call => c.finish call

/-- What events do one after another. -/
def run [Sink σ] (c : Client σ) : List (Event σ) → Outcome σ
  | [] => (c, [])
  | event :: rest =>
    let (c, effects) := c.step event
    let (c, more) := run c rest
    (c, effects ++ more)

end Client
end Tunnel
end PollTunnel

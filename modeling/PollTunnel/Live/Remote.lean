import PollTunnel.Http.Connection
import PollTunnel.Http.Gateway
import PollTunnel.Live.Basic
import PollTunnel.Net.Link

/-!
# The remote side at work

`Remote` is a gateway with the connections of its callers and the sockets of its sessions.

`Remote.step` deals with one event and then does what there is to do without another one
(`Remote.work?`, `Remote.perform`), one thing after the other.

* A request that finds no session waits while the target is dialed, and those that come behind it
  wait with it (`Remote.held`).
* A caller who goes away takes the request along.
* When the service is asked to end, requests under way are still answered, and each connection is
  closed behind its answer.
-/

set_option autoImplicit false

namespace PollTunnel
namespace Live

/-- A request that waits until it is known whether there is a session for it. -/
structure Remote.Held where
  number : Nat
  /-- When it came. -/
  moment : Moment
  request : Request

/-- The socket of a session. -/
structure Remote.Target where
  session : Nat
  socket : Nat
  /-- The identifier of the session in the log. -/
  name : String
  /-- Bytes were asked for, and have not come yet. -/
  receiving : Bool := false
  deriving DecidableEq, Repr

/-- The remote side of a tunnel. -/
structure Remote where
  gateway : Gateway Link
  /-- Where the target is. -/
  host : String
  port : Nat
  connections : List (Nat × Connection) := []
  /-- How many requests have come. -/
  requests : Nat := 0
  /-- Requests that wait for a session, in the order in which they came. -/
  held : List Remote.Held := []
  /-- How often the target was dialed. -/
  dials : Nat := 0
  /-- The time by which the target has to be reached, while it is dialed. -/
  dialBy : Option Nat := none
  targets : List Remote.Target := []
  /-- The service was asked to end. -/
  stopping : Bool := false

namespace Remote

/-- The service with what is to be done. -/
abbrev Outcome := Remote × List Action

/-- The time of the server. -/
def clock (r : Remote) : Nat := r.gateway.tunnel.clock

/-- Time passes until a moment. -/
def pass (r : Remote) (clock : Nat) : Remote :=
  { r with gateway := (r.gateway.step (.tunnel (.pass (clock - r.clock)))).1 }

/-! ## Connections -/

/-- The connection of a number changes. -/
def set (r : Remote) (number : Nat) (c : Connection) : Remote :=
  { r with connections := r.connections.map fun row =>
      if row.1 = number then (number, c) else row }

/-- A connection is over. -/
def hangUp (r : Remote) (number : Nat) : Outcome :=
  ({ r with connections := r.connections.filter (·.1 ≠ number) }, [.close (.caller number)])

/-- Send a response on the connection that its request came on. -/
def respond (m : Moment) (r : Remote) (number : Nat) (response : Response) : Outcome :=
  match r.connections.find? (·.2.answers number) with
  | none => (r, [])
  | some (n, c) =>
    let keepAlive := c.mayContinue && !r.stopping
    let sent := Action.send (.caller n)
      (Wire.writeResponse keepAlive (Wire.dated m.wall.toNat response))
    if keepAlive then (r.set n c.answered, [sent])
    else
      let (r, actions) := r.hangUp n
      (r, sent :: actions)

/-! ## What the gateway causes -/

/-- The identifier of a session in the log. -/
def sessionName (r : Remote) (session : Nat) : String :=
  ((r.targets.find? (·.session = session)).map (·.name)).getD ""

/-- Do what the gateway causes. -/
def relay (m : Moment) (r : Remote) : List Gateway.Effect → Outcome
  | [] => (r, [])
  | .respond number response :: rest =>
    let (r, actions) := r.respond m number response
    let (r, more) := relay m r rest
    (r, actions ++ more)
  | .opened session :: rest =>
    (relay m r rest).map id
      (note .info "Tunnel session opened" [("session", r.sessionName session)] :: ·)
  | .ended session (some cause) :: rest =>
    (relay m r rest).map id
      (note .debug "Tunnel session ended"
        [("session", r.sessionName session), ("error", cause.message)] :: ·)
  | .ended _ none :: rest => relay m r rest
  | .cleared session :: rest =>
    (relay m r rest).map id
      (note .info "Tunnel session closed" [("session", r.sessionName session)] :: ·)

/-- Something happens to the gateway. -/
def act (m : Moment) (r : Remote) (event : Gateway.Event Link) : Outcome :=
  let (gateway, effects) := r.gateway.step event
  { r with gateway }.relay m effects

/-- Something happens to the server behind the gateway. -/
def tunnel (m : Moment) (r : Remote) (event : Tunnel.Server.Event Link) : Outcome :=
  r.act m (.tunnel event)

/-! ## Requests and the target -/

/-- Whether a request is dealt with only once it is known if there is a session. -/
def waits (r : Remote) (h : Held) : Bool :=
  match r.gateway.screen h.moment.wall h.request with
  | .health => true
  | .passed => (Received.ofMessage h.request.toMessage).isOk
  | .answered _ | .tooLarge => false

/-- Whether a request needs the target to be dialed. -/
def wantsTarget (r : Remote) (h : Held) : Bool :=
  !r.gateway.tunnel.hasSession && r.waits h &&
    r.gateway.screen h.moment.wall h.request = .passed

/-- Hand a request to the gateway. -/
def submit (r : Remote) (h : Held) (target : Option Link) : Gateway Link × List Gateway.Effect :=
  r.gateway.step (.request h.number h.moment.wall h.moment.requestId h.request target)

/-- A request comes. -/
def ask (m : Moment) (r : Remote) (request : Request) : Outcome :=
  let h : Held := ⟨r.requests + 1, m, request⟩
  let r := { r with requests := h.number }
  if r.waits h then ({ r with held := r.held ++ [h] }, [])
  else
    let (gateway, effects) := r.submit h none
    { r with gateway }.relay m effects

/-- Go on with the first request that waits: dial the target for it, or deal with it. -/
def resume (m : Moment) (r : Remote) : Outcome :=
  match r.held with
  | [] => (r, [])
  | h :: rest =>
    if r.wantsTarget h then
      let number := r.dials + 1
      let dialBy := some (r.clock + r.gateway.tunnel.timeouts.longPoll.nanos)
      ({ r with dials := number, dialBy },
        [note .debug "Opening tunnel target connection"
          [("host", r.host), ("port", toString r.port)], .dial number r.host r.port])
    else
      let (gateway, effects) := r.submit h none
      { r with held := rest, gateway }.relay m effects

/-- The session that effects tell to be open. -/
def opened? (effects : List Gateway.Effect) : Option Nat :=
  effects.findSome? fun
    | .opened session => some session
    | _ => none

/-- The target was reached: the first request that waits opens a session, if it still needs one. -/
def reached (m : Moment) (r : Remote) (socket : Nat) : Outcome :=
  let r := { r with dialBy := none }
  match r.held with
  | [] => (r, [.close (.dialed socket)])
  | h :: rest =>
    if r.wantsTarget h then
      let (gateway, effects) := r.submit h (some {})
      let targets := match opened? effects with
        | some session => r.targets ++ [{ session, socket, name := m.sessionId }]
        | none => r.targets
      { r with held := rest, gateway, targets }.relay m effects
    else (r, [.close (.dialed socket)])

/-- The target was not reached: the first request that waits is dealt with as it is. -/
def missed (m : Moment) (r : Remote) (cause : IoError) : Outcome :=
  let r := { r with dialBy := none }
  match r.held with
  | [] => (r, [])
  | h :: rest =>
    let (gateway, effects) := r.submit h none
    let (r, actions) := { r with held := rest, gateway }.relay m effects
    (r, note .debug "Unable to open tunnel target connection" [("error", cause.text)] :: actions)

/-- How it fails to dial for too long. -/
def tooLong (r : Remote) : IoError :=
  .worded .timedOut ("Timed out connecting to " ++ r.host ++ ":" ++ toString r.port)

/-- A caller goes away. -/
def leave (m : Moment) (r : Remote) (number : Nat) : Outcome :=
  match r.connections.lookup number with
  | none => (r, [])
  | some c =>
    let (r, actions) := r.hangUp number
    match c.busy with
    | none => (r, actions)
    | some (request, _) =>
      let r := { r with held := r.held.filter (·.number ≠ request) }
      let (r, more) := r.tunnel m (.leave request)
      (r, actions ++ more)

/-! ## What there is to do -/

/-- Something to do without another event. -/
inductive Work where
  /-- Something on the connection of a caller. -/
  | connection (number : Nat) (need : Connection.Need)
  /-- Go on with the requests that wait. -/
  | resume
  /-- Something that happens to the server by itself. -/
  | tunnel (event : Tunnel.Server.Event Link)
  /-- Send on what a session wrote. -/
  | send (target : Target)
  /-- Ask for what the target sends. -/
  | receive (target : Target)
  /-- Close the socket of a session that is over. -/
  | close (target : Target)
  /-- Dial the target no longer. -/
  | giveUp

/-- What there is to do for a session. -/
def targetWork? (r : Remote) (t : Target) : Option Work := do
  let session ← r.gateway.tunnel.sessions[t.session]?
  if session.forwarder.outlet.blocks ≠ [] then return .send t
  if session.closing && session.isRunning then return .tunnel (.notice t.session)
  let isDue := decide (session.wakeBy ≤ r.clock)
  match session.phase with
  | .reading =>
    if isDue then return .tunnel (.read t.session (.ok .timedOut))
    else if t.receiving then none
    else return .receive t
  | .holding _ => if isDue then return .tunnel (.wake t.session) else none
  | .ended => none
  | .closed => return .tunnel (.shutDown t.session)
  | .shutDown =>
    if r.gateway.tunnel.current = some t.session then return .tunnel (.clear t.session)
    else return .close t

/-- A session whose loop has ended closes its queue. -/
def ending? (r : Remote) (t : Target) : Option Work := do
  let session ← r.gateway.tunnel.sessions[t.session]?
  if session.phase = .ended then return .tunnel (.release t.session)
  none

/-- The first thing to do.  A loop that ends goes on to close the queue before anything else. -/
def work? (r : Remote) : Option Work :=
  let tunnel := r.gateway.tunnel
  r.targets.findSome? r.ending? <|>
  (r.connections.findSome? fun (number, c) => c.need?.map (.connection number)) <|>
  (if r.dialBy.isNone && !r.held.isEmpty then some .resume else none) <|>
  (tunnel.arriving.head?.map fun v => .tunnel (.join v.number)) <|>
  (tunnel.forwarding.head?.map fun v =>
    .tunnel (if v.disconnect then .disconnect v.number else .forward v.number)) <|>
  r.targets.findSome? r.targetWork? <|>
  (if r.dialBy.any (· ≤ r.clock) then some .giveUp else none)

/-- The row of a target changes. -/
def setTarget (r : Remote) (t : Target) : Remote :=
  { r with targets := r.targets.map fun row => if row.socket = t.socket then t else row }

/-- What a session wrote, and the service without it. -/
def drain (r : Remote) (session : Nat) : Bytes × Remote :=
  let tunnel := r.gateway.tunnel
  match tunnel.sessions[session]? with
  | none => ([], r)
  | some s =>
    let (bytes, outlet) := s.forwarder.outlet.drain
    let s := { s with forwarder := { s.forwarder with outlet } }
    let tunnel := { tunnel with sessions := tunnel.sessions.set session s }
    (bytes, { r with gateway := { r.gateway with tunnel } })

/-- Look for a request in what a connection brought. -/
def look (m : Moment) (r : Remote) (number : Nat) (c : Connection) : Outcome :=
  match c.next r.gateway.maxBodySize (r.requests + 1) with
  | (.more, c) => (r.set number c, [])
  | (.malformed, _) =>
    let response := Wire.dated m.wall.toNat (.ofStatus Status.badRequest)
    let (r, actions) := r.hangUp number
    (r, .send (.caller number) (Wire.writeResponse false response) :: actions)
  | (.done request _, c) => (r.set number c).ask m request

/-- Do one thing. -/
def perform (m : Moment) (r : Remote) : Work → Outcome
  | .connection number need =>
    match r.connections.lookup number, need with
    | none, _ => (r, [])
    | some c, .bytes => (r.set number c.ask, [.receive (.caller number)])
    | some c, .look => r.look m number c
  | .resume => r.resume m
  | .tunnel event => r.tunnel m event
  | .send t =>
    let (bytes, r) := r.drain t.session
    (r, [.send (.dialed t.socket) bytes])
  | .receive t => (r.setTarget { t with receiving := true }, [.receive (.dialed t.socket)])
  | .close t =>
    ({ r with targets := r.targets.filter (·.socket ≠ t.socket) }, [.close (.dialed t.socket)])
  | .giveUp => r.missed m r.tooLong

/-- Do so many things, as long as there is something to do. -/
def settle (m : Moment) (r : Remote) : Nat → Outcome
  | 0 => (r, [])
  | fuel + 1 =>
    match r.work? with
    | none => (r, [])
    | some work =>
      let (r, actions) := r.perform m work
      let (r, more) := settle m r fuel
      (r, actions ++ more)

/-! ## Events -/

/-- What reading from a target brought, as its session sees it. -/
def readOutcome : Except IoError Bytes → Except Payload.Error Source.Outcome
  | .ok [] => .error .targetClosed
  | .ok bytes => .ok (.data bytes)
  | .error e => if Source.isTimeout e.kind then .ok .timedOut else .error (.io e)

/-- Deal with an event. -/
def handle (m : Moment) (r : Remote) : Event → Outcome
  | .came (.caller number) _ =>
    if r.stopping then (r, [.close (.caller number)])
    else ({ r with connections := r.connections ++ [(number, {})] }, [.accept])
  | .received (.caller number) (.ok (b :: rest)) =>
    match r.connections.lookup number with
    | some c => (r.set number (c.take (b :: rest)), [])
    | none => (r, [])
  | .received (.caller number) _ | .broke (.caller number) _ => r.leave m number
  | .received (.dialed socket) outcome =>
    match r.targets.find? (·.socket = socket) with
    | some t =>
      (r.setTarget { t with receiving := false }).tunnel m (.read t.session (readOutcome outcome))
    | none => (r, [])
  | .broke (.dialed socket) cause =>
    match r.targets.find? (·.socket = socket) with
    | some t => r.tunnel m (.device t.session { failure := some cause })
    | none => (r, [])
  | .dialed socket outcome =>
    if r.dialBy.isSome ∧ socket = r.dials then
      match outcome with
      | .ok () => r.reached m socket
      | .error cause => r.missed m cause
    else (r, [.close (.dialed socket)])
  | .stop =>
    let idle := r.connections.filter (·.2.isIdle)
    ({ r with
        stopping := true
        connections := r.connections.filter (!·.2.isIdle) },
      idle.map fun row => .close (.caller row.1))
  | .came _ _ | .received _ _ | .broke _ _ | .due => (r, [])

/-- How many things are done behind one event. -/
def patience : Nat := 10000

/-- What an event does at a moment, and all that follows from it. -/
def step (m : Moment) (r : Remote) (event : Event) : Outcome :=
  let (r, actions) := (r.pass m.clock).handle m event
  let (r, more) := r.settle m patience
  (r, actions ++ more)

/-- What is to be done to begin with. -/
def first : List Action := [.accept]

/-- The time by which the service acts if nothing happens before. -/
def deadline (r : Remote) : Option Nat :=
  if r.work?.isSome then some r.clock
  else
    let wakes := r.targets.filterMap fun t =>
      (r.gateway.tunnel.sessions[t.session]?).bind fun s =>
        if s.isOpen then some s.wakeBy else none
    wakes.foldl (fun earliest wake => earlier earliest (some wake)) r.dialBy

/-- The service was asked to end, and everybody has got an answer. -/
def isDone (r : Remote) : Bool := r.stopping && r.connections.isEmpty

end Remote
end Live
end PollTunnel

import PollTunnel.Metrics
import PollTunnel.Tunnel.Session

/-!
# The tunnel server

The server opens a session when a request finds none, and gives every other request to the session
that there is.  A request is refused at once if its payload is malformed, and answered at once if
the target cannot be reached.

`Server.step` says what each event does.  A request goes through several of them (`Visit`): it
arrives and is given a session, the session lets it wait, it has the session closed if it asks for
that, and its payload is passed on.  Other events may come in between, so a request may find its
session over.

To pass a payload on may take time, when the target does not take it (`Server.write`).  Nobody else
can use the connection then, neither to pass a payload on nor to shut it down (`Server.isWriting`).
It is free again when the payload was passed on, or when the requester goes away.

A session leaves its place free (`Server.current`) only after it has ended and its connection is
shut down, and requests that arrive until then are told that it is over.
-/

set_option autoImplicit false

namespace PollTunnel
namespace Tunnel

/-- A request on its way through the server. -/
structure Visit where
  /-- Who asked. -/
  number : Nat
  /-- The session that it was given. -/
  session : Nat
  /-- It asks for the end of the session, which was not told so yet. -/
  disconnect : Bool
  received : Received
  /-- Its payload is being written, and nobody else can use the connection meanwhile. -/
  writing : Bool := false
  deriving DecidableEq

/-- A request does not have to ask for the end of its session any more. -/
def Visit.told (visit : Visit) : Visit := { visit with disconnect := false }

/-- A request writes its payload. -/
def Visit.begun (visit : Visit) : Visit := { visit with writing := true }

/-- The server with all sessions that it ever had. -/
structure Server (σ : Type) where
  timeouts : Timeouts
  /-- The time, in nanoseconds. -/
  clock : Nat := 0
  /-- The sessions in the order in which they were opened. -/
  sessions : List (Session σ) := []
  /-- The session that new requests are given to. -/
  current : Option Nat := none
  /-- Requests that have a session and have not reached its queue yet. -/
  arriving : List Visit := []
  /-- Requests that were let in, with what is still to be passed on for them. -/
  forwarding : List Visit := []
  metrics : Metrics := {}

namespace Server

variable {σ : Type}

/-- A server with its two timeouts. -/
def ofTimeouts (timeouts : Timeouts) : Server σ := { timeouts }

/-- Something that happens to the server. -/
inductive Event (σ : Type) where
  /-- A request arrives.  `target` is the connection that the target would grant now, if any. -/
  | arrive (number : Nat) (request : Message) (target : Option σ)
  /-- A request reaches the queue of its session. -/
  | join (number : Nat)
  /-- A request that asks for the end of its session has it closed. -/
  | disconnect (number : Nat)
  /-- A request begins to write its payload, and the target does not take it yet. -/
  | write (number : Nat)
  /-- A request's payload is passed on. -/
  | forward (number : Nat)
  /-- A requester goes away. -/
  | leave (number : Nat)
  /-- A requester goes away while its payload is being passed on. -/
  | abandon (number : Nat)
  /-- A read from a session's target brings something. -/
  | read (session : Nat) (outcome : Except Payload.Error Source.Outcome)
  /-- A session that holds a chunk looks again for a requester. -/
  | wake (session : Nat)
  /-- A session notices that it was asked to close. -/
  | notice (session : Nat)
  /-- A session that has ended closes its queue. -/
  | release (session : Nat)
  /-- A session that has closed its queue shuts its connection down. -/
  | shutDown (session : Nat)
  /-- A session that is shut down leaves its place. -/
  | clear (session : Nat)
  /-- A session's connection changes. -/
  | device (session : Nat) (device : σ)
  /-- Time passes. -/
  | pass (nanos : Nat)

/-- What an event causes outside of the server. -/
inductive Effect where
  /-- A request is answered; `taken` if the requester is still there. -/
  | answer (number : Nat) (answer : Answer) (taken : Bool)
  | opened (session : Nat)
  | ended (session : Nat) (cause : Option Error)
  | cleared (session : Nat)

/-- A server with what an event caused. -/
abbrev Outcome (σ : Type) := Server σ × List Effect

/-- A session is open. -/
def hasSession (s : Server σ) : Bool := s.current.isSome

/-! ## Sessions -/

/-- What is seen from outside of what a session causes. -/
def effectOf? (session : Nat) : Session.Effect → Option Effect
  | .reply r => some (.answer r.waiter.number r.answer r.waiter.present)
  | .ended cause => some (.ended session cause)
  | .passed _ _ => none

/-- Count the payloads among what a session causes. -/
def count (metrics : Metrics) : List Session.Effect → Metrics
  | [] => metrics
  | .passed direction p :: rest => count (metrics.recordPayload direction p.data.length) rest
  | _ :: rest => count metrics rest

/-- Let something happen to a session. -/
def act [Sink σ] (s : Server σ) (session : Nat) (event : Session.Event σ) : Outcome σ :=
  match s.sessions[session]? with
  | none => (s, [])
  | some found =>
    let (found, effects) := found.step s.timeouts s.clock event
    ({ s with
        sessions := s.sessions.set session found
        metrics := count s.metrics effects },
      effects.filterMap (effectOf? session))

/-- Open a session on a connection. -/
def openSession (s : Server σ) (device : σ) : Server σ :=
  { s with
    sessions := s.sessions ++ [Session.start s.timeouts s.clock device]
    current := some s.sessions.length
    metrics := s.metrics.sessionOpened }

/-- Leave the place of a session that is shut down. -/
def clear (s : Server σ) (session : Nat) : Outcome σ :=
  match s.sessions[session]? with
  | none => (s, [])
  | some found =>
    if found.phase = .shutDown ∧ s.current = some session then
      ({ s with current := none, metrics := s.metrics.sessionClosed }, [.cleared session])
    else (s, [])

/-! ## Requests -/

/-- A request arrives: refuse it, give it a session, or tell that there is none. -/
def arrive (s : Server σ) (number : Nat) (request : Message) (target : Option σ) : Outcome σ :=
  match Received.ofMessage request with
  | .error e => (s, [.answer number (.rejected e.message) true])
  | .ok received =>
    let visit (session : Nat) : Visit :=
      { number, session, disconnect := isDisconnect request.headers, received }
    match s.current, target with
    | some session, _ => ({ s with arriving := s.arriving ++ [visit session] }, [])
    | none, some device =>
      let session := s.sessions.length
      let s := s.openSession device
      ({ s with arriving := s.arriving ++ [visit session] }, [.opened session])
    | none, none => (s, [.answer number (.status Status.gone) true])

/-- The requests of other numbers. -/
def without (visits : List Visit) (number : Nat) : List Visit := visits.filter (·.number ≠ number)

/-- The session of that number takes requests. -/
def isOpen (s : Server σ) (session : Nat) : Bool := s.sessions[session]?.any Session.isOpen

/-- A request reaches the queue of its session.  If the session is over, that is all. -/
def join [Sink σ] (s : Server σ) (number : Nat) : Outcome σ :=
  match s.arriving.find? (·.number = number) with
  | none => (s, [])
  | some visit =>
    let isOpen := s.isOpen visit.session
    let s := { s with arriving := without s.arriving number }
    let (s, effects) := s.act visit.session (.join number)
    (if isOpen then { s with forwarding := s.forwarding ++ [visit] } else s, effects)

/-- The visits after something happened to one of them. -/
def changed (change : Visit → Visit) (visits : List Visit) (visit : Visit) : List Visit :=
  visits.map fun other => if other = visit then change other else other

/-- A request that asks for the end of its session has it closed. -/
def disconnect [Sink σ] (s : Server σ) (number : Nat) : Outcome σ :=
  match s.forwarding.find? fun visit => visit.number = number ∧ visit.disconnect = true with
  | none => (s, [])
  | some visit =>
    { s with forwarding := changed .told s.forwarding visit }.act visit.session .close

/-- Somebody writes on the connection of a session. -/
def isWriting (s : Server σ) (session : Nat) : Bool :=
  s.forwarding.any fun visit => visit.session = session ∧ visit.writing = true

/-- It is a request's turn: it has nothing to write, or writes already, or finds nobody who does. -/
def hasTurn (s : Server σ) (visit : Visit) : Bool :=
  visit.received = .noPayload ∨ visit.writing = true ∨ s.isWriting visit.session = false

/-- The request of that number, if it is its turn.  A request to close goes before its payload. -/
def forwarding? (s : Server σ) (number : Nat) : Option Visit :=
  s.forwarding.find? fun visit =>
    visit.number = number ∧ visit.disconnect = false ∧ s.hasTurn visit = true

/-- A request begins to write its payload, if it has one. -/
def write (s : Server σ) (number : Nat) : Server σ :=
  match s.forwarding? number with
  | none => s
  | some visit =>
    match visit.received with
    | .payload _ => { s with forwarding := changed .begun s.forwarding visit }
    | .noPayload => s

/-- A request's payload, if it has one, is passed on. -/
def forward [Sink σ] (s : Server σ) (number : Nat) : Outcome σ :=
  match s.forwarding? number with
  | none => (s, [])
  | some visit =>
    let s := { s with forwarding := without s.forwarding number }
    match visit.received with
    | .payload p => s.act visit.session (.forward p)
    | .noPayload => (s, [])

/-- A requester goes away: what is still to be done for the request is dropped, and nobody takes its
answer. -/
def leave (s : Server σ) (number : Nat) : Server σ :=
  { s with
    arriving := without s.arriving number
    forwarding := without s.forwarding number
    sessions := s.sessions.map fun session =>
      { session with waiting := session.waiting.leave number } }

/-- A requester goes away while its payload is being passed on. -/
def abandon [Sink σ] (s : Server σ) (number : Nat) : Outcome σ :=
  match s.forwarding? number with
  | none => (s, [])
  | some visit =>
    let s := s.leave number
    match visit.received with
    | .payload p => s.act visit.session (.abandon p)
    | .noPayload => (s, [])

/-! ## All events -/

/-- What an event does. -/
def step [Sink σ] (s : Server σ) : Event σ → Outcome σ
  | .arrive number request target => s.arrive number request target
  | .join number => s.join number
  | .disconnect number => s.disconnect number
  | .write number => (s.write number, [])
  | .forward number => s.forward number
  | .leave number => (s.leave number, [])
  | .abandon number => s.abandon number
  | .read session outcome => s.act session (.read outcome)
  | .wake session => s.act session .wake
  | .notice session => s.act session .notice
  | .release session => s.act session .release
  | .shutDown session => if s.isWriting session then (s, []) else s.act session .shutDown
  | .clear session => s.clear session
  | .device session device => s.act session (.device device)
  | .pass nanos => ({ s with clock := s.clock + nanos }, [])

/-- What events do one after another. -/
def run [Sink σ] (s : Server σ) : List (Event σ) → Outcome σ
  | [] => (s, [])
  | event :: rest =>
    let (s, effects) := s.step event
    let (s, more) := run s rest
    (s, effects ++ more)

theorem arrive_of_malformed (s : Server σ) (number : Nat) (request : Message) (target : Option σ)
    (e : Payload.Error) (h : Received.ofMessage request = .error e) :
    s.arrive number request target = (s, [.answer number (.rejected e.message) true]) := by
  simp [arrive, h]

end Server
end Tunnel
end PollTunnel

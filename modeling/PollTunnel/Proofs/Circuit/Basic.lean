import PollTunnel.Payload.Source
import PollTunnel.Proofs.Circuit.Far
import PollTunnel.Proofs.Circuit.Near
import PollTunnel.Proofs.Delivery.Framing
import PollTunnel.Proofs.Delivery.Share

/-!
# A channel and a server with a network between them

A `Circuit` is one channel, a server, the targets' output that the server has not read, and the
messages that are under way.  The channel and the server are those of the tunnel and take the steps
that they take there (`Circuit.near`, `Circuit.far`).

The network delivers a message whenever an event says so, or never: requests and answers overtake
each other freely, an answer comes in two parts, a body may break off, and a request may be left
without an answer.  It delivers nothing twice, since what is delivered is taken out.
-/

set_option autoImplicit false

namespace PollTunnel
namespace Tunnel

/-- The requests as messages that arrive carry what they were started with. -/
theorem Channel.Kind.ofMessage_request (e : Endpoint) (kind : Channel.Kind) {p : Payload}
    (h : Received.ofMessage (kind.request e).toMessage = .ok (.payload p)) :
    kind.payload? = some p := by
  cases kind with
  | poll | disconnect =>
    rw [Received.ofMessage_of_body_nil rfl] at h
    cases h
  | post q =>
    have hround := Payload.ofMessage_assignTo q { headers := e.headers }
    rw [show (Channel.Kind.request e (.post q)).toMessage =
      q.assignTo { headers := e.headers } from rfl, hround] at h
    split at h <;> cases h
    rfl

/-- An answer as a message carries the payload that it answers with. -/
theorem Answer.ofMessage_response (a : Answer) {p : Payload}
    (h : Received.ofMessage a.response.toMessage = .ok (.payload p)) : a = .payload p := by
  cases a with
  | status code =>
    rw [Received.ofMessage_of_body_nil rfl] at h
    cases h
  | payload q =>
    rw [show (Answer.payload q).response.toMessage = q.assignTo {} from rfl,
      Payload.ofMessage_assignTo] at h
    split at h <;> cases h
    rfl
  | rejected reason =>
    have hnone : (Answer.rejected reason).response.headers.first? .sequence = none := rfl
    rw [Received.ofMessage] at h
    split at h
    · cases h
    · rw [show (Answer.rejected reason).response.toMessage.headers =
        (Answer.rejected reason).response.headers from rfl, hnone] at h
      cases h

/-- A channel and a server with a network between them. -/
structure Circuit (σ τ : Type) where
  /-- Where the channel sends its requests. -/
  endpoint : Endpoint
  channel : Channel σ
  server : Server τ
  /-- Requests that have not reached the server. -/
  requests : List (Nat × Channel.Kind) := []
  /-- Answers of which nothing has reached the channel. -/
  answers : List (Nat × Answer) := []
  /-- Answers of which the head has reached the channel. -/
  bodies : List (Nat × Answer) := []
  /-- What the target of each session has sent and the server has not read. -/
  sources : Nat → Source := fun _ => []

namespace Circuit

variable {σ τ : Type}

/-- Something that happens. -/
inductive Event (σ τ : Type) where
  /-- Data is written to the channel. -/
  | write (data : Bytes)
  /-- The channel is closed. -/
  | close
  /-- The local device changes. -/
  | device (device : σ)
  /-- A request reaches the server.  `target` is the connection that the target would grant now. -/
  | request (number : Nat) (target : Option τ)
  /-- Something happens at the server that is neither an arrival nor a read. -/
  | server (event : Server.Event τ)
  /-- The target of a session sends, fails or pauses. -/
  | emit (session : Nat) (event : Source.Event)
  /-- A session reads from its target. -/
  | read (session : Nat)
  /-- The head of an answer reaches the channel. -/
  | head (number : Nat)
  /-- The body of an answer reaches the channel. -/
  | body (number : Nat)
  /-- The body of an answer breaks off. -/
  | cut (number : Nat) (cause : IoError)
  /-- A request is left without an answer. -/
  | fail (number : Nat)

/-- The answers that requesters take, in order. -/
def taken (effects : List Server.Effect) : List (Nat × Answer) :=
  effects.filterMap fun
    | .answer number answer true => some (number, answer)
    | _ => none

/-- The messages of other numbers. -/
def without {α : Type} (messages : List (Nat × α)) (number : Nat) : List (Nat × α) :=
  messages.filter (·.1 ≠ number)

/-- The channel takes a step, and its requests are under way. -/
def near [Sink σ] (c : Circuit σ τ) (event : Channel.Event σ) : Circuit σ τ :=
  { c with
    channel := (c.channel.step event).1
    requests := c.requests ++ Channel.started (c.channel.step event).2 }

/-- The server takes a step, and its answers are under way. -/
def far [Sink τ] (c : Circuit σ τ) (event : Server.Event τ) : Circuit σ τ :=
  { c with
    server := (c.server.step event).1
    answers := c.answers ++ taken (c.server.step event).2 }

/-- Arrivals and reads are not the server's own. -/
def isOwn : Server.Event τ → Bool
  | .arrive _ _ _ | .read _ _ => false
  | _ => true

/-- The sources after one of them was read or filled. -/
def setSource (sources : Nat → Source) (session : Nat) (source : Source) : Nat → Source :=
  fun k => if k = session then source else sources k

/-- What happens at an event.  A message that is not under way is not delivered, and a session that
holds a chunk does not read. -/
def step [Sink σ] [Sink τ] (c : Circuit σ τ) : Event σ τ → Circuit σ τ
  | .write data => c.near (.write data)
  | .close => c.near .close
  | .device device => c.near (.device device)
  | .request number target =>
    match c.requests.lookup number with
    | some kind =>
      { c with requests := without c.requests number }.far
        (.arrive number (kind.request c.endpoint).toMessage target)
    | none => c
  | .server event => if isOwn event then c.far event else c
  | .emit session event =>
    { c with sources := setSource c.sources session (c.sources session ++ [event]) }
  | .read session =>
    match c.server.sessions[session]? with
    | some x =>
      if x.phase = .reading then
        { c with sources := setSource c.sources session (c.sources session).read.2 }.far
          (.read session (c.sources session).read.1)
      else c
    | none => c
  | .head number =>
    match c.answers.lookup number with
    | some answer =>
      { c with
        answers := without c.answers number
        bodies := c.bodies ++ [(number, answer)] }.near
        (.head number answer.response.status answer.response.headers)
    | none => c
  | .body number =>
    match c.bodies.lookup number with
    | some answer =>
      { c with bodies := without c.bodies number }.near (.body number (.ok answer.response.body))
    | none => c
  | .cut number cause =>
    { c with bodies := without c.bodies number }.near (.body number (.error cause))
  | .fail number => c.near (.fail number)

/-- What happens at one event after another. -/
def run [Sink σ] [Sink τ] (c : Circuit σ τ) (events : List (Event σ τ)) : Circuit σ τ :=
  events.foldl step c

/-- A channel that has just been opened, and a server without sessions. -/
def begin (endpoint : Endpoint) (timeouts : Timeouts) (device : σ) : Circuit σ τ :=
  { endpoint
    channel := (Channel.begin device).1
    server := .ofTimeouts timeouts
    requests := Channel.started (Channel.begin device).2 }

/-- All data that is written to the channel, whether it takes it or not. -/
def said (events : List (Event σ τ)) : Bytes :=
  events.flatMap fun
    | .write data => data
    | _ => []

/-- The bytes that a target sends. -/
def sent (session : Nat) (events : List (Event σ τ)) : Bytes :=
  events.flatMap fun
    | .emit k (.data bytes) => if k = session then bytes else []
    | _ => []

end Circuit
end Tunnel
end PollTunnel

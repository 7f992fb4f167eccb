import PollTunnel.Metrics
import PollTunnel.Payload.Forwarder
import PollTunnel.Payload.Framing
import PollTunnel.Tunnel.Answer
import PollTunnel.Tunnel.Endpoint

/-!
# Channels

A `Channel` is the near end of a tunnel: it posts what is written to it as numbered payloads, and
keeps a poll under way so that the far end can answer with data.

`Channel.step` says what each event does and which requests it starts.  Requests are numbered in the
order in which they are started, and their responses come in any order, in two parts: the head
(`Event.head`) and, where the status promises a payload, the body (`Event.body`).

* `Channel.poll` — every response that was dealt with starts the next poll, unless it says that a
  newer request has taken its place.
* `Channel.stop` — a channel closes once, and then starts nothing any more.

Writes, closings and responses share a few things: whether the channel is open, the count of
payloads, and the closer.  Here each of them is dealt with as if it were alone.  What they do when
they overlap is in `PollTunnel.Tunnel.Tasks`, one access to what they share at a time.
-/

set_option autoImplicit false

namespace PollTunnel
namespace Tunnel

/-! ## Requests to an endpoint -/

namespace Endpoint

/-- Path and query of a request. -/
def target (e : Endpoint) : String :=
  match e.url.query with
  | some query => e.url.path ++ "?" ++ query
  | none => e.url.path

/-- A request for target data. -/
def poll (e : Endpoint) : Request :=
  { method := "GET", path := e.target, headers := e.headers, body := [] }

/-- A request that carries a payload. -/
def post (e : Endpoint) (p : Payload) : Request :=
  { p.assignTo { headers := e.headers } with method := "POST", path := e.target }

/-- A request that ends the session at the far end. -/
def disconnect (e : Endpoint) : Request :=
  { method := "POST"
    path := e.target
    headers := e.headers.insert .contentType (Bytes.ofString disconnectContentType)
    body := [] }

end Endpoint

/-- The near end of a tunnel; `σ` is the local device that takes the target's data. -/
structure Channel (σ : Type) where
  forwarder : Forwarder σ
  isOpen : Bool := true
  /-- Whoever waits for the channel to close was told. -/
  closer : Bool := false
  /-- How many payloads have been numbered. -/
  written : Nat := 0
  /-- How many requests have been started. -/
  requests : Nat := 0
  /-- Responses whose body is still to come, by the number of the request, with their fields. -/
  pending : List (Nat × Headers) := []
  metrics : Metrics := {}

namespace Channel

variable {σ : Type}

/-- Something that happens to a channel. -/
inductive Event (σ : Type) where
  /-- Data is written to the channel. -/
  | write (data : Bytes)
  /-- The channel is closed from this side. -/
  | close
  /-- The head of a response arrives. -/
  | head (request : Nat) (status : Status) (headers : Headers)
  /-- The body of a response arrives, or fails to. -/
  | body (request : Nat) (content : Except IoError Bytes)
  /-- A request gets no response. -/
  | fail (request : Nat)
  /-- The local device changes. -/
  | device (device : σ)

/-- What a started request asks for. -/
inductive Kind where
  | poll
  | post (payload : Payload)
  | disconnect
  deriving DecidableEq

/-- What an event causes outside of the channel. -/
inductive Effect where
  /-- A request is started. -/
  | send (request : Nat) (kind : Kind)
  /-- The channel closes. -/
  | closed

/-- A channel with what an event caused. -/
abbrev Outcome (σ : Type) := Channel σ × List Effect

/-- The request that a channel at an endpoint sends. -/
def Kind.request (e : Endpoint) : Kind → Request
  | .poll => e.poll
  | .post p => e.post p
  | .disconnect => e.disconnect

/-- The longest body of a response. -/
def maxResponseSize : Nat := 16 * 1024 * 1024

/-- Start a request. -/
def start (kind : Kind) (c : Channel σ) : Outcome σ :=
  let number := c.requests + 1
  let metrics := match kind with
    | .post p => c.metrics.recordPayload .outbound p.data.length
    | _ => c.metrics
  ({ c with requests := number, metrics }, [.send number kind])

/-! ## What is shared -/

/-- Take the next number for a payload. -/
def number (c : Channel σ) : Channel σ := { c with written := c.written + 1 }

/-- Let nothing start any more.  Whoever finds the channel open when it does this has closed it. -/
def shut (c : Channel σ) : Channel σ := { c with isOpen := false }

/-- Tell whoever waits for the channel to close. -/
def signal (c : Channel σ) : Outcome σ := ({ c with closer := true }, [.closed])

/-- Start a request, unless the channel is closed. -/
def launch (kind : Kind) (c : Channel σ) : Outcome σ := if c.isOpen then c.start kind else (c, [])

/-! ## Writing and closing -/

/-- Start a poll, unless the channel is closed. -/
def poll (c : Channel σ) : Outcome σ := c.launch .poll

/-- A channel onto a local device, with its first poll. -/
def begin (device : σ) : Outcome σ := { forwarder := .onto device : Channel σ }.poll

/-- Close the channel; the far end is not told. -/
def stop (c : Channel σ) : Outcome σ := if c.isOpen then c.shut.signal else (c, [])

/-- Close the channel and end the session at the far end. -/
def close (c : Channel σ) : Outcome σ :=
  if c.isOpen then
    let (c, effects) := c.shut.signal
    let (c, more) := c.start .disconnect
    (c, effects ++ more)
  else (c, [])

/-- Send data: how many bytes were taken, and the request that carries them. -/
def write (data : Bytes) (c : Channel σ) : Except Error Nat × Outcome σ :=
  if c.isOpen then
    if data = [] then (.ok 0, c, [])
    else
      match Payload.make c.number.written data with
      | .error e => (.error (.payload e), c.number, [])
      | .ok p => (.ok data.length, c.number.launch (.post p))
  else (.error .channelClosed, c, [])

/-! ## Responses -/

/-- What a response leads to. -/
inductive Sequel where
  | nothing
  /-- The next poll. -/
  | poll
  /-- The end of the channel. -/
  | stop
  deriving DecidableEq

/-- Do what a response leads to. -/
def follow (c : Channel σ) : Sequel → Outcome σ
  | .nothing => (c, [])
  | .poll => c.poll
  | .stop => c.stop

/-- What a status without a body leads to. -/
def sequel (status : Status) : Sequel :=
  if status = Status.noContent then .poll
  else if status = Status.tooManyRequests then .nothing
  else .stop

/-- Take the head of a response.  Only an answer with a payload has a body that counts. -/
def takeHead (request : Nat) (status : Status) (headers : Headers) (c : Channel σ) :
    Channel σ × Sequel :=
  if status = Status.ok then ({ c with pending := c.pending ++ [(request, headers)] }, .nothing)
  else (c, sequel status)

/-- Deal with the head of a response. -/
def head (request : Nat) (status : Status) (headers : Headers) (c : Channel σ) : Outcome σ :=
  if c.isOpen then
    let (c, sequel) := c.takeHead request status headers
    c.follow sequel
  else (c, [])

/-- Pass on what a complete response carries. -/
def receive [Sink σ] (message : Message) (c : Channel σ) :
    Except Payload.Error Unit × Channel σ :=
  match Received.ofMessage message with
  | .error e => (.error e, c)
  | .ok .noPayload => (.ok (), c)
  | .ok (.payload p) =>
    let (result, forwarder) := c.forwarder.forward p
    let metrics := c.metrics.recordPayload .inbound p.data.length
    (result, { c with forwarder, metrics })

/-- Take the body of a response whose head was taken. -/
def takeBody [Sink σ] (request : Nat) (content : Except IoError Bytes) (c : Channel σ) :
    Channel σ × Sequel :=
  match c.pending.lookup request with
  | none => (c, .nothing)
  | some headers =>
    let c := { c with pending := c.pending.filter (·.1 ≠ request) }
    match content with
    | .error _ => (c, .stop)
    | .ok bytes =>
      if maxResponseSize < bytes.length then (c, .stop)
      else
        match c.receive { headers, body := bytes } with
        | (.error _, c) => (c, .stop)
        | (.ok (), c) => (c, .poll)

/-- Deal with the body of a response. -/
def body [Sink σ] (request : Nat) (content : Except IoError Bytes) (c : Channel σ) : Outcome σ :=
  let (c, sequel) := c.takeBody request content
  c.follow sequel

/-! ## Events -/

/-- What an event does. -/
def step [Sink σ] (c : Channel σ) : Event σ → Outcome σ
  | .write data => (c.write data).2
  | .close => c.close
  | .head request status headers => c.head request status headers
  | .body request content => c.body request content
  | .fail _ => c.stop
  | .device device =>
    ({ c with forwarder := { c.forwarder with outlet := { c.forwarder.outlet with device } } }, [])

/-- What events do one after another. -/
def run [Sink σ] (c : Channel σ) : List (Event σ) → Outcome σ
  | [] => (c, [])
  | event :: rest =>
    let (c, effects) := c.step event
    let (c, more) := run c rest
    (c, effects ++ more)

end Channel
end Tunnel
end PollTunnel

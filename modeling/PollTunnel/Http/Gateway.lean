import PollTunnel.Access.Policy
import PollTunnel.Http.Route
import PollTunnel.Tunnel.Server

/-!
# The gateway

The gateway stands between the network and the tunnel server.  A request is screened
(`Gateway.screen`) by its declared length, its path, the access policy and the length of its body,
in this order, and only one that passes reaches the server.

* `Gateway.arrive` — a request comes in: it is answered on the spot, or handed to the server.
* `Gateway.step` — the same for every event; answers of the server become responses.

Each response carries the identifier of its request.
-/

set_option autoImplicit false

namespace PollTunnel

/-- What is remembered of a request until its response. -/
structure Gateway.Caller where
  number : Nat
  /-- The identifier that goes with the response. -/
  requestId : Bytes
  /-- Only the head of the response is wanted. -/
  headOnly : Bool
  deriving DecidableEq, Repr

/-- The tunnel server behind its path, limits and access policy. -/
structure Gateway (σ : Type) where
  route : Route
  /-- The most bytes of a body. -/
  maxBodySize : Nat
  policy : Access.Policy
  tunnel : Tunnel.Server σ
  /-- Requests that the server has not answered yet. -/
  callers : List Gateway.Caller := []

namespace Gateway

variable {σ : Type}

/-- Why a gateway cannot be set up. -/
inductive SetupError where
  | timeouts (cause : Tunnel.Error)
  | access (cause : Access.Error)
  /-- The path is no pattern. -/
  | path (text : String)

/-- The gateway that is configured. -/
def ofConfig (files : Files) (config : Config) : Except SetupError (Gateway σ) := do
  let timeouts ← (Tunnel.Timeouts.ofMillis config.server.longPollMillis
    config.server.disconnectMillis).mapError .timeouts
  let policy ← (Access.Policy.ofConfig files config.security).mapError .access
  match Route.read? config.server.path with
  | none => throw (.path config.server.path)
  | some route =>
    return {
      route, policy
      maxBodySize := config.server.maxBodySize
      tunnel := .ofTimeouts timeouts }

/-! ## Screening -/

/-- The path under which the gateway tells how it is. -/
def healthPath : String := "/health"

/-- The methods of the health path. -/
def healthMethods : List String := ["GET", "HEAD"]

/-- What a request's length field declares, if it is a number of 64 bits. -/
def declaredLength? (headers : Headers) : Option Nat := do
  let value ← headers.first? .contentLength
  let text ← plainText? value
  let n ← Decimal.unsigned? text
  if n < Nat.pow 2 64 then some n else none

/-- The path of a request, without its query. -/
def pathOf (r : Request) : String :=
  String.ofList (r.path.toList.takeWhile fun c => c ≠ '?' ∧ c ≠ '#')

/-- A path belongs to the tunnel.  The health path does only if the tunnel's is the same. -/
def isTunnelPath (g : Gateway σ) (path : String) : Bool :=
  if path = healthPath then some g.route == Route.read? healthPath else g.route.takes path

/-- What becomes of a request. -/
inductive Screening where
  /-- It is answered without the tunnel. -/
  | answered (response : Response)
  /-- It asks how the gateway is. -/
  | health
  /-- It is for the tunnel, but its body is too long. -/
  | tooLarge
  /-- It reaches the tunnel. -/
  | passed
  deriving DecidableEq

/-- The answer to a declared length above the limit. -/
def lengthExceeded : Response := .ofText Status.payloadTooLarge "length limit exceeded"

/-- The answer to a method that the health path does not have. -/
def methodNotAllowed : Response :=
  { status := Status.methodNotAllowed
    headers := [(.allow, Bytes.ofString (",".intercalate healthMethods))] }

/-- Screen a request for the tunnel's own path. -/
def screenTunnel (g : Gateway σ) (wall : UInt64) (limit : Nat) (r : Request) : Screening :=
  match g.policy.check wall r.headers with
  | .error e => .answered e.response
  | .ok () => if limit < r.body.length then .tooLarge else .passed

/-- Screen a request at a time of the wall clock. -/
def screen (g : Gateway σ) (wall : UInt64) (r : Request) : Screening :=
  let declared := declaredLength? r.headers
  let path := pathOf r
  if declared.any (g.maxBodySize < ·) then .answered lengthExceeded
  else if path = healthPath ∧ r.method ∈ healthMethods then .health
  else if g.isTunnelPath path then
    g.screenTunnel wall (min g.maxBodySize (declared.getD g.maxBodySize)) r
  else if path = healthPath then .answered methodNotAllowed
  else .answered (.ofStatus Status.notFound)

/-! ## Responses -/

/-- How the gateway is. -/
def healthReport (g : Gateway σ) : Response :=
  let report := Json.object [("session_active", .boolean g.tunnel.hasSession),
    ("status", .string "UP")]
  { status := Status.ok
    headers := [(.contentType, Bytes.ofString "application/json")]
    body := Bytes.ofString report.compact }

/-- What is remembered of a request; `fresh` identifies one that brings no identifier. -/
def Caller.ofRequest (number : Nat) (fresh : Bytes) (r : Request) : Caller :=
  { number
    requestId := (r.headers.first? .requestId).getD fresh
    headOnly := r.method == "HEAD" }

/-- A response as its caller gets it. -/
def Caller.dress (c : Caller) (r : Response) : Response :=
  { r with
    headers := r.headers ++ [(.requestId, c.requestId)]
    body := if c.headOnly then [] else r.body }

/-- What an event causes outside of the gateway. -/
inductive Effect where
  | respond (number : Nat) (response : Response)
  | opened (session : Nat)
  | ended (session : Nat) (cause : Option Tunnel.Error)
  | cleared (session : Nat)

/-- A gateway with what an event caused. -/
abbrev Outcome (σ : Type) := Gateway σ × List Effect

/-- Count an answer of the tunnel's path. -/
def countResponse (g : Gateway σ) (status : Status) : Gateway σ :=
  { g with tunnel := { g.tunnel with metrics := g.tunnel.metrics.recordResponse status } }

/-- A response for an answer of the server, unless the requester has gone away. -/
def answer (g : Gateway σ) (number : Nat) (a : Tunnel.Answer) (taken : Bool) : Outcome σ :=
  match g.callers.find? (·.number = number) with
  | none => (g, [])
  | some caller =>
    let g := { g with callers := g.callers.filter (·.number ≠ number) }
    if taken then
      (g.countResponse a.statusCode, [.respond number (caller.dress a.response)])
    else (g, [])

/-- Hand on what the server causes. -/
def relay (g : Gateway σ) : List Tunnel.Server.Effect → Outcome σ
  | [] => (g, [])
  | .answer number a taken :: rest =>
    let (g, effects) := g.answer number a taken
    let (g, more) := relay g rest
    (g, effects ++ more)
  | .opened session :: rest => (relay g rest).map id (.opened session :: ·)
  | .ended session cause :: rest => (relay g rest).map id (.ended session cause :: ·)
  | .cleared session :: rest => (relay g rest).map id (.cleared session :: ·)

/-! ## Events -/

/-- Something that happens to the gateway. -/
inductive Event (σ : Type) where
  /-- A request comes in.  `wall` is the time of the wall clock in seconds, `fresh` an identifier
  for a request that brings none, and `target` the connection that the target would grant now. -/
  | request (number : Nat) (wall : UInt64) (fresh : Bytes) (request : Request)
      (target : Option σ)
  /-- Something happens to the server behind the gateway. -/
  | tunnel (event : Tunnel.Server.Event σ)

/-- A request comes in. -/
def arrive (g : Gateway σ) (number : Nat) (wall : UInt64) (fresh : Bytes) (r : Request)
    (target : Option σ) : Outcome σ :=
  let caller := Caller.ofRequest number fresh r
  match g.screen wall r with
  | .answered response => (g, [.respond number (caller.dress response)])
  | .health => (g, [.respond number (caller.dress g.healthReport)])
  | .tooLarge =>
    (g.countResponse Status.payloadTooLarge,
      [.respond number (caller.dress (.ofStatus Status.payloadTooLarge))])
  | .passed =>
    let (tunnel, effects) := g.tunnel.arrive number r.toMessage target
    { g with tunnel, callers := g.callers ++ [caller] }.relay effects

/-- What an event does. -/
def step [Sink σ] (g : Gateway σ) : Event σ → Outcome σ
  | .request number wall fresh r target => g.arrive number wall fresh r target
  | .tunnel event =>
    let (tunnel, effects) := g.tunnel.step event
    { g with tunnel }.relay effects

/-- What events do one after another. -/
def run [Sink σ] (g : Gateway σ) : List (Event σ) → Outcome σ
  | [] => (g, [])
  | event :: rest =>
    let (g, effects) := g.step event
    let (g, more) := run g rest
    (g, effects ++ more)

theorem arrive_of_answered (g : Gateway σ) (number : Nat) (wall : UInt64) (fresh : Bytes)
    (r : Request) (target : Option σ) (response : Response)
    (h : g.screen wall r = .answered response) :
    g.arrive number wall fresh r target =
      (g, [.respond number ((Caller.ofRequest number fresh r).dress response)]) := by
  simp [arrive, h]

end Gateway
end PollTunnel

import PollTunnel.Log
import PollTunnel.IoError
import PollTunnel.Net.SocketAddress

/-!
# Services at work

A service at work is told what happens to its sockets (`Live.Event`), and when, and says what is to
be done (`Live.Action`).  Sockets are numbered by whoever opens them.

Bytes come only after they were asked for: each `Action.receive` brings one `Event.received`.
-/

set_option autoImplicit false

namespace PollTunnel
namespace Live

/-- A socket of a service. -/
inductive Socket where
  /-- One that came to the port of the service. -/
  | caller (number : Nat)
  /-- One that came to the port where the metrics are told. -/
  | scraper (number : Nat)
  /-- One that the service opened. -/
  | dialed (number : Nat)
  deriving DecidableEq, Repr, Inhabited

/-- When something happens, and what is new about it. -/
structure Moment where
  /-- The time that timeouts are measured by, in nanoseconds. -/
  clock : Nat
  /-- The time of the wall clock, in seconds. -/
  wall : UInt64
  /-- An identifier that no request has yet. -/
  requestId : Bytes
  /-- An identifier that no session has yet. -/
  sessionId : String

/-- Something that happens to a service. -/
inductive Event where
  /-- A socket comes. -/
  | came (socket : Socket) (peer : SocketAddress)
  /-- A socket that was to be opened is open, or cannot be. -/
  | dialed (number : Nat) (outcome : Except IoError Unit)
  /-- Bytes come, or none any more, or reading fails. -/
  | received (socket : Socket) (outcome : Except IoError Bytes)
  /-- Writing to a socket failed. -/
  | broke (socket : Socket) (cause : IoError)
  /-- The time has come that the service waited for. -/
  | due
  /-- The service is asked to end. -/
  | stop

/-- Something that a service wants done. -/
inductive Action where
  /-- Let one more socket come to the port of the service. -/
  | accept
  /-- Let one more socket come to the port where the metrics are told. -/
  | acceptScraper
  /-- Open a socket. -/
  | dial (number : Nat) (host : String) (port : Nat)
  | receive (socket : Socket)
  | send (socket : Socket) (bytes : Bytes)
  /-- Close a socket when everything is sent. -/
  | close (socket : Socket)
  | log (event : Log.Event)

/-- The earlier one of two times, either of which may be missing. -/
def earlier : Option Nat → Option Nat → Option Nat
  | none, t | t, none => t
  | some a, some b => some (min a b)

/-- A log event with fields of text. -/
def note (level : Log.Level) (message : String) (fields : List (String × String)) : Action :=
  .log { level, message, fields := fields.map fun (name, value) => (name, .text value) }

end Live
end PollTunnel

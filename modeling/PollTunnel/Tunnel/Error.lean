import PollTunnel.Duration
import PollTunnel.Http.Message
import PollTunnel.Payload

/-!
# Errors of the tunnel

`Tunnel.Error` lists what stops a tunnel server, a channel or a client, and `Tunnel.Error.message`
words it.
-/

set_option autoImplicit false

namespace PollTunnel
namespace Tunnel

/-- The two settings that have to be positive lengths of time. -/
inductive Setting where
  | longPoll
  | disconnect
  deriving DecidableEq, Repr, Inhabited

/-- The name of a setting in messages. -/
def Setting.name : Setting → String
  | .longPoll => "LongPollTimeout"
  | .disconnect => "DisconnectTimeout"

/-- Why a listener could not be made or used. -/
inductive ListenerError where
  | bind (cause : IoError)
  | accept (cause : IoError)
  | closed
  deriving DecidableEq, Repr, Inhabited

/-- The message for a listener's error. -/
def ListenerError.message : ListenerError → String
  | .bind cause => "Failed to bind: " ++ cause.text
  | .accept cause => "Failed to accept: " ++ cause.text
  | .closed => "Listener closed"

/-- The name of a listener error's kind. -/
def ListenerError.name : ListenerError → String
  | .bind _ => "Bind"
  | .accept _ => "Accept"
  | .closed => "Closed"

/-- The full form of a listener's error. -/
def ListenerError.detail (e : ListenerError) : String :=
  match e with
  | .bind cause | .accept cause => e.name ++ "(" ++ cause.detail ++ ")"
  | .closed => e.name

/-- Why a part of the tunnel failed. -/
inductive Error where
  | payload (cause : Payload.Error)
  /-- No request came for too long. -/
  | disconnectTimeout (timeout elapsed : Duration)
  | invalidTimeout (setting : Setting)
  | invalidPort
  | invalidUrl (words : String)
  | alreadyStarted
  | channelClosed
  /-- A request got no response; `connect` if no connection was made at all. -/
  | request (connect : Bool) (words : String)
  | unexpectedStatus (status : Status)
  | listener (cause : ListenerError)
  | io (cause : IoError)
  deriving DecidableEq, Repr, Inhabited

namespace Error

/-- The message for an error. -/
def message : Error → String
  | .payload cause => cause.message
  | .disconnectTimeout timeout elapsed =>
    "Disconnect timeout: " ++ timeout.text ++ " " ++ elapsed.text
  | .invalidTimeout setting => setting.name ++ " must be a positive value"
  | .invalidPort => "Port must be positive"
  | .invalidUrl words => words
  | .alreadyStarted => "Server already started"
  | .channelClosed => "Tunnel channel is closed"
  | .request _ words => "HTTP request failed: " ++ words
  | .unexpectedStatus status => "Unexpected response status " ++ toString status
  | .listener cause => "Listener error: " ++ cause.message
  | .io cause => "I/O error: " ++ cause.text

/-- The name of an error's kind. -/
def name : Error → String
  | .payload _ => "Payload"
  | .disconnectTimeout _ _ => "DisconnectTimeout"
  | .invalidTimeout _ => "InvalidTimeout"
  | .invalidPort => "InvalidPort"
  | .invalidUrl _ => "InvalidUrl"
  | .alreadyStarted => "AlreadyStarted"
  | .channelClosed => "ChannelClosed"
  | .request _ _ => "Request"
  | .unexpectedStatus _ => "UnexpectedStatus"
  | .listener _ => "Listener"
  | .io _ => "Io"

/-- The full form of an error. -/
def detail (e : Error) : String :=
  match e with
  | .payload cause => e.name ++ "(" ++ cause.detail ++ ")"
  | .disconnectTimeout timeout elapsed =>
    e.name ++ " \x7b timeout: " ++ timeout.text ++ ", elapsed: " ++ elapsed.text ++ " \x7d"
  | .invalidTimeout setting => e.name ++ "(" ++ Text.quoted setting.name ++ ")"
  | .invalidUrl words | .request _ words => e.name ++ "(" ++ Text.quoted words ++ ")"
  | .unexpectedStatus status => e.name ++ "(" ++ toString status ++ ")"
  | .listener cause => e.name ++ "(" ++ cause.detail ++ ")"
  | .io cause => e.name ++ "(" ++ cause.detail ++ ")"
  | .invalidPort | .alreadyStarted | .channelClosed => e.name

/-- The remote endpoint could not be reached at all. -/
def isConnect : Error → Bool
  | .request connect _ => connect
  | .io cause => cause.kind == .connectionRefused
  | _ => false

end Error

/-! ## Settings that are checked -/

/-- The port of a target. -/
structure TargetPort where
  number : Nat
  positive : 0 < number
  deriving Repr

/-- A port other than zero. -/
def TargetPort.make (number : Nat) : Except Error TargetPort :=
  if h : 0 < number then .ok ⟨number, h⟩ else .error .invalidPort

/-- The two timeouts of a tunnel server. -/
structure Timeouts where
  /-- How long a request waits for data before it is answered without any. -/
  longPoll : Duration := .ofSeconds 10
  /-- How long a session lives without a request. -/
  disconnect : Duration := .ofSeconds 30
  longPoll_pos : 0 < longPoll.nanos := by decide
  disconnect_pos : 0 < disconnect.nanos := by decide
  deriving DecidableEq, Repr

namespace Timeouts

/-- The timeouts where nothing else is set. -/
def standard : Timeouts := {}

/-- Change the time a request waits. -/
def setLongPoll (t : Timeouts) (d : Duration) : Except Error Timeouts :=
  if h : 0 < d.nanos then .ok { t with longPoll := d, longPoll_pos := h }
  else .error (.invalidTimeout .longPoll)

/-- Change the time a session lives without a request. -/
def setDisconnect (t : Timeouts) (d : Duration) : Except Error Timeouts :=
  if h : 0 < d.nanos then .ok { t with disconnect := d, disconnect_pos := h }
  else .error (.invalidTimeout .disconnect)

/-- The timeouts with these milliseconds; of two errors the first setting's is reported. -/
def ofMillis (longPoll disconnect : Nat) : Except Error Timeouts := do
  let t ← standard.setLongPoll (.ofMillis longPoll)
  t.setDisconnect (.ofMillis disconnect)

end Timeouts
end Tunnel
end PollTunnel

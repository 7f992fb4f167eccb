import PollTunnel.Json
import PollTunnel.Payload

/-!
# Log events

A `Log.Event` has a level, a message and named fields.  `Payload.logEvent` is the event that
traces a payload on its way through the tunnel.
-/

set_option autoImplicit false

namespace PollTunnel
namespace Log

/-- How important an event is. -/
inductive Level where
  | error
  | warn
  | info
  | debug
  | trace
  deriving DecidableEq, Repr, Inhabited

/-- The name of a level in the log. -/
def Level.name : Level → String
  | .error => "ERROR"
  | .warn => "WARN"
  | .info => "INFO"
  | .debug => "DEBUG"
  | .trace => "TRACE"

/-- The rank of a level: one for errors, five for traces. -/
def Level.rank : Level → Nat
  | .error => 1
  | .warn => 2
  | .info => 3
  | .debug => 4
  | .trace => 5

/-- What a field of an event holds. -/
inductive Value where
  | text (value : String)
  | number (value : Nat)
  deriving DecidableEq, Repr

/-- One event. -/
structure Event where
  level : Level
  message : String
  fields : List (String × Value) := []
  deriving DecidableEq, Repr

/-- A field's value in the JSON form of the log. -/
def Value.json : Value → Json
  | .text s => .string s
  | .number n => .ofNat n

/-- The fields of an event in the JSON form of the log, the message among them. -/
def Event.json (e : Event) : Json :=
  .object (("message", .string e.message) :: e.fields.map fun (name, v) => (name, v.json))

end Log

/-- Which way a payload travels, as seen from this side. -/
inductive Direction where
  | inbound
  | outbound
  deriving DecidableEq, Repr, Inhabited

namespace Direction

/-- The sign for a direction in the log. -/
def sign : Direction → String
  | .inbound => "<"
  | .outbound => ">"

/-- The label for a direction in the metrics. -/
def label : Direction → String
  | .inbound => "inbound"
  | .outbound => "outbound"

end Direction

/-- The trace of a payload, with all its bytes. -/
def Payload.logEvent (p : Payload) (direction : Direction) : Log.Event :=
  { level := .trace
    message := "Tunnel payload"
    fields :=
      [("direction", .text direction.sign), ("sequence", .number p.sequence),
        ("len", .number p.data.length), ("data", .text (Bytes.hex p.data))] }

end PollTunnel

import PollTunnel.Http.Message
import PollTunnel.Number.Decimal
import PollTunnel.Payload
import PollTunnel.Text.Blank
import PollTunnel.Text.Utf8

/-!
# Payloads in messages

A message carries a payload as its body, with the length and the sequence number in two header
fields:

    content-length: <number of bytes>
    x-seq: <sequence number in decimal>

* `Payload.assignTo` writes a payload into a message and replaces what those fields held.
* `Received.ofMessage` reads it back.  An empty body carries no payload, whatever the fields say.
-/

set_option autoImplicit false

namespace PollTunnel

/-- The field with the sequence number. -/
def HeaderName.sequence : HeaderName := ⟨"x-seq"⟩

/-- What a message carried. -/
inductive Received where
  | payload (payload : Payload)
  | noPayload
  deriving DecidableEq

namespace Payload

/-- A number as a field value. -/
def decimalValue (n : Nat) : Bytes := Bytes.ofString (toString n)

/-- The message with this payload as its body. -/
def assignTo (p : Payload) (m : Message) : Message :=
  { headers :=
      (m.headers.insert .contentLength (decimalValue p.data.length)).insert .sequence
        (decimalValue p.sequence)
    body := p.data }

/-- A response that carries this payload. -/
def response (p : Payload) : Response :=
  { (p.assignTo {}) with status := Status.ok }

/-- The least and the greatest signed number of 64 bits bound a sequence field. -/
def isWord (n : Int) : Bool := -(Nat.pow 2 63 : Int) ≤ n && n < Nat.pow 2 63

/-- Spaces and tabs around a sequence number are not part of it. -/
def isPadding (c : Char) : Bool := c == ' ' || c == '\t'

/-- The number that a sequence field holds. -/
def readSequence (value : Bytes) : Except Error Int :=
  match plainText? value with
  | none => .error (.malformedSequence (Utf8.decodeLossy value))
  | some text =>
    match Decimal.integer? (Text.trimBy isPadding text) with
    | some n =>
      if isWord n = true then .ok n else .error (.malformedSequence (String.ofList text))
    | none => .error (.malformedSequence (String.ofList text))

end Payload

/-- What a message carries; of several sequence fields the first counts. -/
def Received.ofMessage (m : Message) : Except Payload.Error Received :=
  if m.body = [] then .ok .noPayload
  else
    match m.headers.first? .sequence with
    | none => .error .missingSequence
    | some value =>
      match Payload.readSequence value with
      | .error e => .error e
      | .ok n => (Payload.make n.toNat m.body).map .payload

theorem Received.ofMessage_of_body_nil {m : Message} (h : m.body = []) :
    Received.ofMessage m = .ok .noPayload := by
  simp [Received.ofMessage, h]

end PollTunnel

import PollTunnel.Payload.Framing

/-!
# Answers to waiting requests

A request to the tunnel endpoint is answered with a bare status, with a payload read from the
target, or with a refusal that says what is wrong with it.
-/

set_option autoImplicit false

namespace PollTunnel
namespace Tunnel

/-- The answer to a request. -/
inductive Answer where
  | status (code : Status)
  | payload (data : Payload)
  /-- The request was malformed. -/
  | rejected (reason : String)
  deriving DecidableEq

namespace Answer

/-- The status that an answer is sent with. -/
def statusCode : Answer → Status
  | .status code => code
  | .payload _ => Status.ok
  | .rejected _ => Status.badRequest

/-- The answer as a response. -/
def response : Answer → Response
  | .status code => .ofStatus code
  | .payload p => p.response
  | .rejected reason => .ofText Status.badRequest reason

theorem status_response (a : Answer) : a.response.status = a.statusCode := by
  cases a <;> rfl

end Answer

/-- The content type of a request that ends its session. -/
def disconnectContentType : String := "application/x-disconnect"

/-- A request asks for the end of its session by its content type, whatever the case. -/
def isDisconnect (headers : Headers) : Bool :=
  match (headers.first? .contentType).bind plainText? with
  | some text =>
    (Text.trimBy Payload.isPadding text).map Char.toLower == disconnectContentType.toList
  | none => false

end Tunnel
end PollTunnel

import PollTunnel.Http.Message
import PollTunnel.Text.Quoted

/-!
# Refusals

An `Access.Error` says why a request is refused, or why access control could not be set up.

* `Access.Error.response` — the answer to the refused request; where a token would have helped, it
  carries a challenge.
-/

set_option autoImplicit false

namespace PollTunnel
namespace Access

/-- Why access is refused. -/
inductive Error where
  | missingToken
  | invalidToken (reason : String)
  | denied
  /-- Access control is not set up properly. -/
  | configuration (reason : String)
  deriving DecidableEq, Repr, Inhabited

namespace Error

/-- The message for an error. -/
def message : Error → String
  | .missingToken => "Missing bearer token"
  | .invalidToken reason => "Invalid token: " ++ reason
  | .denied => "Access denied"
  | .configuration reason => "Security configuration error: " ++ reason

/-- The name of an error's kind. -/
def name : Error → String
  | .missingToken => "MissingToken"
  | .invalidToken _ => "InvalidToken"
  | .denied => "Denied"
  | .configuration _ => "Configuration"

/-- The full form of an error. -/
def detail (e : Error) : String :=
  match e with
  | .invalidToken reason | .configuration reason => e.name ++ "(" ++ Text.quoted reason ++ ")"
  | .missingToken | .denied => e.name

/-- The status that a refused request is answered with. -/
def status : Error → Status
  | .missingToken | .invalidToken _ => Status.unauthorized
  | .denied => Status.forbidden
  | .configuration _ => Status.internalError

/-- What the requester is told to bring. -/
def challenge? : Error → Option String
  | .missingToken => some "Bearer"
  | .invalidToken _ => some "Bearer error=\"invalid_token\""
  | .denied | .configuration _ => none

/-- The answer to a refused request. -/
def response (e : Error) : Response :=
  let plain := Response.ofText e.status e.message
  match e.challenge? with
  | some words => { plain with headers := plain.headers.insert .challenge (Bytes.ofString words) }
  | none => plain

theorem challenge?_isSome_iff (e : Error) :
    e.challenge?.isSome = true ↔ e.status = Status.unauthorized := by
  cases e <;> simp [challenge?, status, Status.unauthorized, Status.forbidden,
    Status.internalError]

end Error
end Access
end PollTunnel

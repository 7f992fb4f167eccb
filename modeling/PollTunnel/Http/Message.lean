import PollTunnel.Http.Header

/-!
# Messages

A `Message` is the part that requests and responses share: header fields and a whole body.  A
`Request` adds method and path, a `Response` a status.
-/

set_option autoImplicit false

namespace PollTunnel

/-- Header fields and a body. -/
structure Message where
  headers : Headers := []
  body : Bytes := []
  deriving DecidableEq, Inhabited

/-- A response's three-digit status. -/
abbrev Status := Nat

namespace Status

def ok : Status := 200
def noContent : Status := 204
def badRequest : Status := 400
def unauthorized : Status := 401
def forbidden : Status := 403
def notFound : Status := 404
def methodNotAllowed : Status := 405
def gone : Status := 410
def payloadTooLarge : Status := 413
def tooManyRequests : Status := 429
def internalError : Status := 500

end Status

/-- A request whose body has been read. -/
structure Request extends Message where
  method : String := "GET"
  path : String := "/"
  deriving DecidableEq, Inhabited

/-- A response with its body. -/
structure Response extends Message where
  status : Status := Status.ok
  deriving DecidableEq, Inhabited

namespace Response

/-- A status and nothing else. -/
def ofStatus (status : Status) : Response := { status }

/-- A status with an explanation in plain text. -/
def ofText (status : Status) (text : String) : Response :=
  { status
    headers := [(.contentType, Bytes.ofString "text/plain; charset=utf-8")]
    body := Bytes.ofString text }

end Response
end PollTunnel

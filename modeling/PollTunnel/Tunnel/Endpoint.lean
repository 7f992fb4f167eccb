import PollTunnel.Http.Message
import PollTunnel.Tunnel.Error
import PollTunnel.Url

/-!
# Remote endpoints

An `Endpoint` is where a client sends its requests: an `http` URL and the header fields that go
with every request.
-/

set_option autoImplicit false

namespace PollTunnel
namespace Tunnel

/-- A remote tunnel endpoint. -/
structure Endpoint where
  url : HttpUrl
  headers : Headers := []
  deriving DecidableEq

namespace Endpoint

/-- The endpoint at a URL. -/
def ofUrl (s : String) : Except Error Endpoint :=
  if s.toList.all Text.isBlank = true then .error (.invalidUrl "URL must not be empty")
  else
    match Url.parse? s with
    | none => .error (.invalidUrl ("Malformed URL '" ++ s ++ "'"))
    | some (.other scheme) => .error (.invalidUrl ("Unsupported URL scheme '" ++ scheme ++ "'"))
    | some (.http url) =>
      if url.isUsable = true then .ok { url }
      else .error (.invalidUrl ("Malformed URL '" ++ s ++ "'"))

/-- The same endpoint with one more field for every request; a name has one value. -/
def withHeader (e : Endpoint) (name : HeaderName) (value : Bytes) : Endpoint :=
  { e with headers := e.headers.insert name value }

end Endpoint
end Tunnel
end PollTunnel

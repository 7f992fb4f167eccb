/-!
# The configuration

`Config` has a section for each part of the program, and every field has a default, so that a
document only names what it changes.
-/

set_option autoImplicit false

namespace PollTunnel

/-- Where a tunnel endpoint is found unless a document says otherwise. -/
def defaultPath : String := "/.~~devtunnel~/debug"

/-- The remote side: the endpoint and the socket behind it. -/
structure Config.Server where
  bindAddress : String := "0.0.0.0:8080"
  /-- The path of the endpoint. -/
  path : String := defaultPath
  targetHost : String := "127.0.0.1"
  targetPort : Nat := 5005
  longPollMillis : Nat := 10000
  disconnectMillis : Nat := 30000
  /-- The most bytes of a request's body. -/
  maxBodySize : Nat := 1024 * 1024
  deriving DecidableEq, Repr, Inhabited

/-- The local side. -/
structure Config.Client where
  remoteUrl : String := "http://localhost:8080" ++ defaultPath
  /-- The port to listen on; zero for any. -/
  localPort : Nat := 8000
  bearerToken : Option String := none
  deriving DecidableEq, Repr, Inhabited

/-- How bearer tokens are checked. -/
structure Config.Jwt where
  /-- The secret of a symmetric algorithm. -/
  secret : Option String := none
  /-- The file with the public key of any other algorithm. -/
  publicKeyLocation : Option String := none
  /-- The accepted algorithm; there has to be exactly one. -/
  algorithms : List String := ["HS256"]
  issuer : Option String := none
  /-- The accepted audiences; none at all accepts any. -/
  audiences : List String := []
  /-- The tolerated difference of clocks. -/
  leewaySeconds : Nat := 60
  deriving DecidableEq, Repr, Inhabited

/-- Access control.  Tokens take precedence over a shared secret; with neither, all is open. -/
structure Config.Security where
  secret : Option String := none
  /-- The header field that carries the secret. -/
  secretHeader : String := "X-AUTH-TOKEN"
  jwt : Option Config.Jwt := none
  deriving DecidableEq, Repr, Inhabited

/-- Logging and metrics. -/
structure Config.Observability where
  logLevel : String := "info"
  jsonLogs : Bool := false
  metricsEnabled : Bool := false
  metricsAddress : String := "127.0.0.1:9090"
  deriving DecidableEq, Repr, Inhabited

/-- The whole configuration. -/
structure Config where
  server : Config.Server := {}
  client : Config.Client := {}
  security : Config.Security := {}
  observability : Config.Observability := {}
  /-- The active profiles. -/
  activeProfiles : List String := []
  deriving DecidableEq, Repr, Inhabited

end PollTunnel

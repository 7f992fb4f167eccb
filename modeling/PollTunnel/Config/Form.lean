import PollTunnel.Config.Schema
import PollTunnel.Json

/-!
# The JSON form of a configuration

`Config.json` writes out a configuration with every field, under the keys that a document uses.  A
field without a value is null.
-/

set_option autoImplicit false

namespace PollTunnel
namespace Config

/-- The server section. -/
def Server.json (s : Server) : Json :=
  .object [("bind_address", .string s.bindAddress), ("path", .string s.path),
    ("target_host", .string s.targetHost), ("target_port", .ofNat s.targetPort),
    ("long_poll_timeout_ms", .ofNat s.longPollMillis),
    ("disconnect_timeout_ms", .ofNat s.disconnectMillis),
    ("max_body_size", .ofNat s.maxBodySize)]

/-- The client section. -/
def Client.json (c : Client) : Json :=
  .object [("remote_url", .string c.remoteUrl), ("local_port", .ofNat c.localPort),
    ("bearer_token", .ofOptionalText c.bearerToken)]

/-- The settings of a token check. -/
def Jwt.json (j : Jwt) : Json :=
  .object [("secret", .ofOptionalText j.secret),
    ("public_key_location", .ofOptionalText j.publicKeyLocation),
    ("jws_algorithms", .ofTexts j.algorithms), ("issuer", .ofOptionalText j.issuer),
    ("audiences", .ofTexts j.audiences), ("leeway_secs", .ofNat j.leewaySeconds)]

/-- The security section. -/
def Security.json (s : Security) : Json :=
  .object [("secret", .ofOptionalText s.secret), ("secret_header_name", .string s.secretHeader),
    ("jwt", (s.jwt.map Jwt.json).getD .null)]

/-- The observability section. -/
def Observability.json (o : Observability) : Json :=
  .object [("log_level", .string o.logLevel), ("json_logs", .boolean o.jsonLogs),
    ("metrics_enabled", .boolean o.metricsEnabled),
    ("metrics_address", .string o.metricsAddress)]

/-- The whole configuration. -/
def json (c : Config) : Json :=
  .object [("server", c.server.json), ("client", c.client.json), ("security", c.security.json),
    ("observability", c.observability.json),
    ("profiles", .object [("active", .ofTexts c.activeProfiles)])]

end Config
end PollTunnel

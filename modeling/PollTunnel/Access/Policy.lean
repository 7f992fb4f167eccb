import PollTunnel.Access.SharedSecret
import PollTunnel.Access.TokenCheck

/-!
# Access policies

Which requests reach the tunnel: those with a token, those with a shared secret, or all.

* `Access.Policy.ofConfig` — tokens go before a secret, and with neither everything is open.
-/

set_option autoImplicit false

namespace PollTunnel
namespace Access

/-- Who is admitted. -/
inductive Policy where
  | permitAll
  | sharedSecret (secret : SharedSecret)
  | tokens (check : TokenCheck)

namespace Policy

/-- The name of a policy. -/
def name : Policy → String
  | .permitAll => "permit-all"
  | .sharedSecret _ => "secret-header"
  | .tokens _ => "jwt"

/-- The policy that is configured. -/
def ofConfig (files : Files) (config : Config.Security) : Except Error Policy :=
  match config.jwt, config.secret with
  | some jwt, _ =>
    match TokenCheck.ofConfig files jwt with
    | .ok check => .ok (.tokens check)
    | .error e => .error (.configuration e.message)
  | none, some secret => (SharedSecret.make config.secretHeader secret).map .sharedSecret
  | none, none => .ok .permitAll

/-- Admit a request at a time, or refuse it. -/
def check (p : Policy) (now : UInt64) (headers : Headers) : Except Error Unit :=
  match p with
  | .permitAll => .ok ()
  | .sharedSecret s => s.check headers
  | .tokens c => (c.check now headers).map fun _ => ()

end Policy
end Access
end PollTunnel

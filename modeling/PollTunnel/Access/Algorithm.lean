/-!
# Signature algorithms of tokens

Twelve algorithms in four families.  The three of the family `hmac` use a shared secret, all
others a public key.
-/

set_option autoImplicit false

namespace PollTunnel

/-- An algorithm that tokens are signed with. -/
inductive Algorithm where
  | hs256
  | hs384
  | hs512
  | es256
  | es384
  | rs256
  | rs384
  | rs512
  | ps256
  | ps384
  | ps512
  | edDsa
  deriving DecidableEq, Repr, Inhabited

/-- The kind of key that an algorithm needs. -/
inductive Algorithm.Family where
  | hmac
  | rsa
  | ellipticCurve
  | edwards
  deriving DecidableEq, Repr, Inhabited

namespace Algorithm

/-- The name in token headers and configurations. -/
def name : Algorithm → String
  | .hs256 => "HS256"
  | .hs384 => "HS384"
  | .hs512 => "HS512"
  | .es256 => "ES256"
  | .es384 => "ES384"
  | .rs256 => "RS256"
  | .rs384 => "RS384"
  | .rs512 => "RS512"
  | .ps256 => "PS256"
  | .ps384 => "PS384"
  | .ps512 => "PS512"
  | .edDsa => "EdDSA"

/-- All algorithms. -/
def all : List Algorithm :=
  [.hs256, .hs384, .hs512, .es256, .es384, .rs256, .rs384, .rs512, .ps256, .ps384, .ps512, .edDsa]

/-- The algorithm of that name. -/
def ofName? (s : String) : Option Algorithm := all.find? (·.name == s)

/-- The family of an algorithm. -/
def family : Algorithm → Family
  | .hs256 | .hs384 | .hs512 => .hmac
  | .rs256 | .rs384 | .rs512 | .ps256 | .ps384 | .ps512 => .rsa
  | .es256 | .es384 => .ellipticCurve
  | .edDsa => .edwards

/-- The algorithm uses a shared secret. -/
def isHmac (a : Algorithm) : Bool := a.family == .hmac

theorem ofName?_name (a : Algorithm) : ofName? a.name = some a := by
  cases a <;> decide +kernel

theorem name_of_ofName? {s : String} {a : Algorithm} (h : ofName? s = some a) : a.name = s := by
  simpa using List.find?_some h

end Algorithm
end PollTunnel

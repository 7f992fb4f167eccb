import PollTunnel.Access.Error
import PollTunnel.Access.Key
import PollTunnel.Config.Validation
import PollTunnel.Files
import PollTunnel.Text.Blank

/-!
# Access by tokens

A `TokenCheck` is made from its part of the configuration; after that it depends on the clock alone.

* `TokenCheck.ofConfig` — read the key and settle the algorithm, or say what is wrong.
* `TokenCheck.verify` — the claims of a token, or its first fault: parts, header, algorithm,
  signature, claims, times, issuer, audience.
* `TokenCheck.check` — the same for the token that a request carries.
-/

set_option autoImplicit false

namespace PollTunnel

/-- What tokens are checked against. -/
structure TokenCheck where
  algorithm : Algorithm
  key : Key
  /-- The tolerated difference of clocks, in seconds. -/
  leeway : UInt64
  /-- The issuer that tokens have to name, if they name one. -/
  issuer : Option String
  /-- The audiences of which tokens have to name one, if they name any; none at all accept all. -/
  audiences : List String
  deriving Repr

namespace TokenCheck

/-! ## Setting up -/

/-- Why a check of tokens cannot be set up. -/
inductive SetupError where
  | algorithmCount
  | unknownAlgorithm (name : String)
  | unreadableKey (location : String) (cause : IoError)
  | invalidKey (location : String)
  /-- A public key for an algorithm with shared secrets. -/
  | notForPublicKeys (algorithm : Algorithm)
  /-- A shared secret for an algorithm with public keys. -/
  | notForSecrets (algorithm : Algorithm)
  | missingKey
  deriving DecidableEq, Repr

/-- The message for an error. -/
def SetupError.message : SetupError → String
  | .algorithmCount => algorithmCountText
  | .unknownAlgorithm name => "unknown JWS algorithm '" ++ name ++ "'"
  | .unreadableKey location cause =>
    "unable to read public key '" ++ location ++ "': " ++ cause.text
  | .invalidKey location => "invalid public key '" ++ location ++ "': InvalidKeyFormat"
  | .notForPublicKeys algorithm => algorithm.name ++ " cannot be used with a public key"
  | .notForSecrets algorithm => algorithm.name ++ " cannot be used with a shared secret"
  | .missingKey => "either a secret or a public key location is required"

/-- The one algorithm of a list of names. -/
def singleAlgorithm (names : List String) : Except SetupError Algorithm :=
  match names with
  | [name] =>
    match Algorithm.ofName? name with
    | some algorithm => .ok algorithm
    | none => .error (.unknownAlgorithm name)
  | _ => .error .algorithmCount

/-- The kind of public key that is read for an algorithm; the others have none. -/
def publicFamily? : Algorithm → Option Algorithm.Family
  | .rs256 | .rs384 | .rs512 | .ps256 | .ps384 | .ps512 => some .rsa
  | .es256 | .es384 => some .ellipticCurve
  | .edDsa => some .edwards
  | .hs256 | .hs384 | .hs512 => none

/-- An algorithm for which a secret is taken. -/
def takesSecret : Algorithm → Bool
  | .hs256 | .hs384 | .hs512 => true
  | _ => false

/-- The public key in a file, for an algorithm. -/
def publicKey (files : Files) (location : String) (algorithm : Algorithm) :
    Except SetupError Key :=
  match files.read location with
  | .error cause => .error (.unreadableKey location cause)
  | .ok file =>
    match publicFamily? algorithm with
    | none => .error (.notForPublicKeys algorithm)
    | some family =>
      match Key.published? family file with
      | some key => .ok key
      | none => .error (.invalidKey location)

/-- The key that is configured for an algorithm; a file goes before a secret. -/
def configuredKey (files : Files) (config : Config.Jwt) (algorithm : Algorithm) : Except SetupError Key :=
  match config.publicKeyLocation, config.secret with
  | some location, _ => publicKey files location algorithm
  | none, some secret =>
    if takesSecret algorithm then .ok (.shared (Bytes.ofString secret))
    else .error (.notForSecrets algorithm)
  | none, none => .error .missingKey

/-- The check that is configured. -/
def ofConfig (files : Files) (config : Config.Jwt) : Except SetupError TokenCheck := do
  let algorithm ← singleAlgorithm config.algorithms
  let key ← configuredKey files config algorithm
  return {
    algorithm, key
    leeway := config.leewaySeconds.toUInt64
    issuer := config.issuer
    audiences := config.audiences }

/-! ## Checking -/

/-- Fail with a fault if something is the case. -/
def reject (fault : Token.Fault) (isFaulty : Bool) : Except Token.Fault Unit :=
  if isFaulty then .error fault else .ok ()

/-- The names that a claim has to share, if it can be understood, are shared. -/
def shares (wanted : List String) (claim : Claims.Reading (List String)) : Bool :=
  match claim with
  | .value names => names.any wanted.contains
  | .absent | .unreadable => true

/-- The token has ended.  Sums and differences of seconds wrap around at 64 bits. -/
def isExpired (leeway now : UInt64) (expiry : UInt64) : Bool := expiry < now - leeway

/-- The token has not begun. -/
def isEarly (leeway now : UInt64) (start : UInt64) : Bool := now + leeway < start

/-- Compare the claims of a token at a time. -/
def validate (c : TokenCheck) (now : UInt64) (claims : Claims.Standard) :
    Except Token.Fault Unit := do
  match claims.expiry.value? with
  | none => throw .missingExpiry
  | some expiry =>
    reject .malformedStart (claims.start = .unreadable)
    reject .expired (isExpired c.leeway now expiry)
    reject .early (claims.start.value?.any (isEarly c.leeway now))
    reject .issuer (!(c.issuer.all fun issuer => shares [issuer] claims.issuers))
    reject .audience (c.audiences ≠ [] && !shares c.audiences claims.audiences)

/-- The claims of a token that passes, or its first fault. -/
def verify (c : TokenCheck) (now : UInt64) (text : Bytes) : Except Token.Fault Claims := do
  match Token.split? text with
  | none => throw .malformed
  | some token =>
    let algorithm ← token.algorithm
    reject .wrongAlgorithm (algorithm ≠ c.algorithm)
    let verifies ← c.key.verifier c.algorithm
    let signature ← Token.decode token.signature
    reject .signature (!verifies token.signed signature)
    let claims ← Claims.read token.claims
    c.validate now (Claims.standard claims)
    return claims

/-- The token that a request carries: what follows the scheme and a space in the first value of its
field. -/
def bearerToken? (headers : Headers) : Option (List Char) := do
  let value ← headers.first? .authorization
  let text ← plainText? value
  match text.dropWhile (· ≠ ' ') with
  | [] => none
  | _ :: rest =>
    let scheme := (text.takeWhile (· ≠ ' ')).map Char.toLower
    let token := Text.trimBy Text.isBlank rest
    if scheme = "bearer".toList ∧ token ≠ [] then some token else none

/-- The claims of the token that a request carries. -/
def check (c : TokenCheck) (now : UInt64) (headers : Headers) : Except Access.Error Claims :=
  match bearerToken? headers with
  | none => .error .missingToken
  | some token =>
    (c.verify now (Bytes.ofString (String.ofList token))).mapError fun fault =>
      .invalidToken fault.reason

end TokenCheck
end PollTunnel

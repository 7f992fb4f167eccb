import PollTunnel.Access.Algorithm
import PollTunnel.Config.Schema
import PollTunnel.Log
import PollTunnel.Net.SocketAddress
import PollTunnel.Text.Quoted
import PollTunnel.Url

/-!
# Checking a configuration

`Config.problems` lists what is wrong with a configuration: one problem for each rule that it
breaks, in the order server, client, security, observability.  The problems of a section depend on
that section alone, and on which files exist.
-/

set_option autoImplicit false

namespace PollTunnel

/-- A rule that a configuration breaks. -/
inductive Config.Problem where
  | invalidBindAddress (address : String)
  | invalidPath (path : String)
  | invalidTargetPort
  | nonPositiveTimeout (field : String)
  | invalidMaxBodySize
  | invalidRemoteUrl (url : String)
  | emptySecret
  | algorithmCount
  | unknownAlgorithm (name : String)
  | missingKey
  | conflictingKeys
  | algorithmKeyMismatch (name : String)
  | publicKeyNotFound (location : String)
  | invalidLogLevel (level : String)
  | invalidMetricsAddress (address : String)
  deriving DecidableEq, Repr, Inhabited

/-- What is said where a token check has not exactly one algorithm. -/
def algorithmCountText : String :=
  "Creating a JWT decoder with a single key requires exactly one JWS algorithm"

namespace Config

/-- The message for a problem. -/
def Problem.message : Problem → String
  | .invalidBindAddress a => "server.bind_address '" ++ a ++ "' is not a socket address"
  | .invalidPath p => "server.path '" ++ p ++ "' must start with '/'"
  | .invalidTargetPort => "server.target_port must be positive"
  | .nonPositiveTimeout f => f ++ " must be a positive value"
  | .invalidMaxBodySize => "server.max_body_size must be positive"
  | .invalidRemoteUrl u => "client.remote_url '" ++ u ++ "' is not an http URL"
  | .emptySecret => "security.secret must not be empty"
  | .algorithmCount => algorithmCountText
  | .unknownAlgorithm n => "Unknown JWS algorithm '" ++ n ++ "'"
  | .missingKey => "security.jwt needs either a secret or a public_key_location"
  | .conflictingKeys =>
    "security.jwt.secret and security.jwt.public_key_location are mutually exclusive"
  | .algorithmKeyMismatch n => "JWS algorithm '" ++ n ++ "' does not match the configured key"
  | .publicKeyNotFound l => "JWT public key location '" ++ l ++ "' does not exist"
  | .invalidLogLevel l => "observability.log_level '" ++ l ++ "' is not a log level"
  | .invalidMetricsAddress a =>
    "observability.metrics_address '" ++ a ++ "' is not a socket address"

/-- The name of a problem's rule. -/
def Problem.name : Problem → String
  | .invalidBindAddress _ => "InvalidBindAddress"
  | .invalidPath _ => "InvalidPath"
  | .invalidTargetPort => "InvalidTargetPort"
  | .nonPositiveTimeout _ => "NonPositiveTimeout"
  | .invalidMaxBodySize => "InvalidMaxBodySize"
  | .invalidRemoteUrl _ => "InvalidRemoteUrl"
  | .emptySecret => "EmptySecret"
  | .algorithmCount => "JwsAlgorithmCount"
  | .unknownAlgorithm _ => "UnknownJwsAlgorithm"
  | .missingKey => "MissingJwtKey"
  | .conflictingKeys => "ConflictingJwtKeys"
  | .algorithmKeyMismatch _ => "AlgorithmKeyMismatch"
  | .publicKeyNotFound _ => "PublicKeyNotFound"
  | .invalidLogLevel _ => "InvalidLogLevel"
  | .invalidMetricsAddress _ => "InvalidMetricsAddress"

/-- What a problem complains about, if it names it. -/
def Problem.subject? : Problem → Option String
  | .invalidBindAddress s | .invalidPath s | .nonPositiveTimeout s | .invalidRemoteUrl s
  | .unknownAlgorithm s | .algorithmKeyMismatch s | .publicKeyNotFound s | .invalidLogLevel s
  | .invalidMetricsAddress s => some s
  | .invalidTargetPort | .invalidMaxBodySize | .emptySecret | .algorithmCount | .missingKey
  | .conflictingKeys => none

/-- A problem's name with what it complains about. -/
def Problem.detail (p : Problem) : String :=
  match p.subject? with
  | some s => p.name ++ "(" ++ Text.quoted s ++ ")"
  | none => p.name

/-- A problem, if its rule is broken. -/
def report (broken : Bool) (problem : Problem) : List Problem := if broken then [problem] else []

/-! ## Sections -/

/-- An address that a socket can have. -/
def isSocketAddress (s : String) : Bool := (SocketAddress.ofString? s).isSome

/-- What is wrong with the server section. -/
def Server.problems (s : Server) : List Problem :=
  report (!isSocketAddress s.bindAddress) (.invalidBindAddress s.bindAddress) ++
    report (s.path.toList.head? != some '/') (.invalidPath s.path) ++
    report (s.targetPort == 0) .invalidTargetPort ++
    report (s.longPollMillis == 0) (.nonPositiveTimeout "server.long_poll_timeout_ms") ++
    report (s.disconnectMillis == 0) (.nonPositiveTimeout "server.disconnect_timeout_ms") ++
    report (s.maxBodySize == 0) .invalidMaxBodySize

/-- A URL to which requests may be sent. -/
def isHttpUrl (s : String) : Bool :=
  match Url.parse? s with
  | some url => url.scheme == "http"
  | none => false

/-- What is wrong with the client section. -/
def Client.problems (c : Client) : List Problem :=
  report (!isHttpUrl c.remoteUrl) (.invalidRemoteUrl c.remoteUrl)

/-- The single algorithm of a token check, if it is known. -/
def Jwt.algorithm? (j : Jwt) : Option Algorithm :=
  match j.algorithms with
  | [name] => Algorithm.ofName? name
  | _ => none

/-- What is wrong with the algorithms of a token check. -/
def Jwt.algorithmProblems (j : Jwt) : List Problem :=
  match j.algorithms with
  | [name] => report (Algorithm.ofName? name).isNone (.unknownAlgorithm name)
  | _ => [.algorithmCount]

/-- An algorithm that goes with a secret. -/
def goesWithSecret : Algorithm → Bool
  | .hs256 | .hs384 | .hs512 => true
  | _ => false

theorem goesWithSecret_eq (algorithm : Algorithm) : goesWithSecret algorithm = algorithm.isHmac := by
  cases algorithm <;> rfl

/-- An algorithm that a key of the other kind is configured for. -/
def mismatch (algorithm : Option Algorithm) (fits : Algorithm → Bool) : List Problem :=
  match algorithm with
  | some a => report (!fits a) (.algorithmKeyMismatch a.name)
  | none => []

/-- What is wrong with the key of a token check. -/
def Jwt.keyProblems (j : Jwt) (fileExists : String → Bool) : List Problem :=
  match j.secret, j.publicKeyLocation with
  | none, none => [.missingKey]
  | some _, some _ => [.conflictingKeys]
  | some _, none => mismatch j.algorithm? goesWithSecret
  | none, some location =>
    report (!fileExists location) (.publicKeyNotFound location) ++
      mismatch j.algorithm? (!goesWithSecret ·)

/-- What is wrong with a token check. -/
def Jwt.problems (j : Jwt) (fileExists : String → Bool) : List Problem :=
  j.algorithmProblems ++ j.keyProblems fileExists

/-- What is wrong with the security section. -/
def Security.problems (s : Security) (fileExists : String → Bool) : List Problem :=
  report (s.secret == some "") .emptySecret ++
    (match s.jwt with
      | some jwt => jwt.problems fileExists
      | none => [])

/-- The level that a text names, by its name in any case or by a number from one to five. -/
def logLevel? (s : String) : Option Log.Level :=
  let levels : List Log.Level := [.error, .warn, .info, .debug, .trace]
  match Decimal.unsigned? s.toList with
  | some n => levels.find? (·.rank == n)
  | none => levels.find? (·.name == String.ofList (s.toList.map Char.toUpper))

/-- What is wrong with the observability section. -/
def Observability.problems (o : Observability) : List Problem :=
  report (logLevel? o.logLevel).isNone (.invalidLogLevel o.logLevel) ++
    report (!isSocketAddress o.metricsAddress) (.invalidMetricsAddress o.metricsAddress)

/-- What is wrong with a configuration. -/
def problems (c : Config) (fileExists : String → Bool) : List Problem :=
  c.server.problems ++ c.client.problems ++ c.security.problems fileExists ++
    c.observability.problems

/-- A configuration that breaks no rule. -/
def isValid (c : Config) (fileExists : String → Bool) : Bool := c.problems fileExists == []

end Config
end PollTunnel

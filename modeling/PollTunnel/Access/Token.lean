import PollTunnel.Access.Algorithm
import PollTunnel.Crypto.Hmac
import PollTunnel.Encoding.Base64
import PollTunnel.Json.Reader
import PollTunnel.Text.Utf8

/-!
# Tokens

A token is three parts between dots, each in base 64: a header that names the algorithm, the
claims, and a signature of the two.

* `Token.split?` — the parts of a token.
* `Token.algorithm` — the algorithm that a header names.
* `Claims.read` — the claims, and what is compared of them (`Claims.Standard`).
* `Token.issue` — a token signed with a secret.
-/

set_option autoImplicit false

namespace PollTunnel

/-- What is wrong with a token. -/
inductive Token.Fault where
  /-- It has not the three parts. -/
  | malformed
  | encoding (cause : Base64.Error)
  | json
  /-- The header names another algorithm. -/
  | wrongAlgorithm
  /-- The configured key is no point of the algorithm's curve. -/
  | curveKey
  | edwardsKey
  | signature
  | missingExpiry
  | malformedStart
  | expired
  | early
  | issuer
  | audience
  deriving DecidableEq, Repr

/-- How a fault is explained. -/
def Token.Fault.reason : Token.Fault → String
  | .malformed => "InvalidToken"
  | .encoding cause => "Base64 error: " ++ cause.message
  | .json => "JSON error"
  | .wrongAlgorithm => "InvalidAlgorithm"
  | .curveKey => "InvalidEcdsaKey"
  | .edwardsKey => "InvalidEddsaKey"
  | .signature => "signature rejected"
  | .missingExpiry => "Missing required claim: exp"
  | .malformedStart => "Invalid format for claim: nbf"
  | .expired => "token expired"
  | .early => "token not yet valid"
  | .issuer => "issuer rejected"
  | .audience => "audience rejected"

/-- The parts of a token, in base 64. -/
structure Token where
  header : Bytes
  claims : Bytes
  signature : Bytes
  deriving DecidableEq, Repr

namespace Token

/-- The octet between parts. -/
def dot : UInt8 := Bytes.octet '.'

/-- What stands before the last dot and behind it. -/
def splitLast? (text : Bytes) : Option (Bytes × Bytes) :=
  let back := text.reverse
  match back.dropWhile (· != dot) with
  | [] => none
  | _ :: before => some (before.reverse, (back.takeWhile (· != dot)).reverse)

/-- The parts of a token.  There may be more dots; they belong to the header. -/
def split? (text : Bytes) : Option Token := do
  let (signed, signature) ← splitLast? text
  let (header, claims) ← splitLast? signed
  return ⟨header, claims, signature⟩

/-- What the signature signs. -/
def signed (t : Token) : Bytes := t.header ++ dot :: t.claims

/-- The bytes of a part. -/
def decode (part : Bytes) : Except Fault Bytes :=
  (Base64.decode .urlSafe .absent part).mapError .encoding

/-- The value that a part holds. -/
def value (part : Bytes) : Except Fault Json := do
  let bytes ← decode part
  match (Utf8.decode? bytes).bind Json.read? with
  | some v => return v
  | none => throw .json

/-! ## Headers -/

/-- A text, or nothing. -/
def isText : Json → Bool
  | .null | .string _ => true
  | _ => false

/-- A list of texts, or nothing. -/
def isTexts : Json → Bool
  | .null => true
  | .array items => items.all fun item => item.text?.isSome
  | _ => false

/-- The curves that a key in a header may name. -/
def curveNames : List String := ["P-256", "P-384", "P-521", "Ed25519"]

/-- A key written as an object, or nothing. -/
def isKey (value : Json) : Bool :=
  let text (name : String) : Option String := (value.get? name).bind Json.text?
  let has (names : List String) : Bool := names.all fun name => (text name).isSome
  let onCurve : Bool := (text "crv").any curveNames.contains
  match value with
  | .null => true
  | .object _ =>
    match text "kty" with
    | some "EC" => onCurve && has ["x", "y"]
    | some "RSA" => has ["n", "e"]
    | some "oct" => has ["k"]
    | some "OKP" => onCurve && has ["x"]
    | _ => false
  | _ => false

/-- The members that a header may have besides its algorithm, with the form of their values.  Any
other member is a text. -/
def optionalMembers : List (String × (Json → Bool)) :=
  [("typ", isText), ("cty", isText), ("jku", isText), ("jwk", isKey), ("kid", isText),
    ("x5u", isText), ("x5c", isTexts), ("x5t", isText), ("x5t#S256", isText), ("crit", isTexts),
    ("enc", isText), ("zip", isText), ("url", isText), ("nonce", isText)]

/-- The name of the member with the algorithm. -/
def algorithmMember : String := "alg"

/-- The value of a member has the form it should have. -/
def fitsMember (member : String × Json) : Bool :=
  if member.1 = algorithmMember then true
  else
    match optionalMembers.lookup member.1 with
    | some fits => fits member.2
    | none => member.2.text?.isSome

/-- No name of these stands twice. -/
def isOnce (names : List String) (members : List (String × Json)) : Bool :=
  names.all fun name => (members.filter (·.1 == name)).length ≤ 1

/-- The algorithm that a value names; a text, or an object with the text as its only name. -/
def namedAlgorithm? : Json → Option Algorithm
  | .string name => Algorithm.ofName? name
  | .object [(name, .null)] => Algorithm.ofName? name
  | _ => none

/-- The algorithm that a header names. -/
def headerAlgorithm? : Json → Option Algorithm
  | .object members =>
    if isOnce (algorithmMember :: optionalMembers.map (·.1)) members &&
        members.all fitsMember then
      (members.lookup algorithmMember).bind namedAlgorithm?
    else none
  | _ => none

/-- The algorithm of a token. -/
def algorithm (t : Token) : Except Fault Algorithm := do
  match headerAlgorithm? (← value t.header) with
  | some a => return a
  | none => throw .json

end Token

/-! ## Claims -/

/-- Claims about the bearer of a token: names, each once, with values. -/
abbrev Claims := List (String × Json)

namespace Claims

/-- A claim that is compared: absent, of a form that is not understood, or a value. -/
inductive Reading (α : Type) where
  | absent
  | unreadable
  | value (x : α)
  deriving DecidableEq, Repr

/-- The value of a claim that is understood. -/
def Reading.value? {α : Type} : Reading α → Option α
  | .value x => some x
  | .absent | .unreadable => none

/-- The claims that are compared. -/
structure Standard where
  /-- The second in which the token ends. -/
  expiry : Reading UInt64
  /-- The second in which the token begins. -/
  start : Reading UInt64
  issuers : Reading (List String)
  audiences : Reading (List String)
  deriving DecidableEq, Repr

/-- A point in time: a number of seconds from zero on, rounded to a whole one. -/
def instant? : Json → Option UInt64
  | .number (.integer n) => if 0 ≤ n ∧ n < Nat.pow 2 64 then some n.toNat.toUInt64 else none
  | .number (.real x) =>
    if x.isFinite ∧ (x.isZero ∨ x.isNegative = false) ∧ x.roundHalfUp < Nat.pow 2 64 then
      some x.roundHalfUp.toUInt64
    else none
  | _ => none

/-- One text or a list of texts. -/
def names? : Json → Option (List String)
  | .string s => some [s]
  | .array items => items.mapM Json.text?
  | _ => none

/-- Read a claim of an object. -/
def reading {α : Type} (read? : Json → Option α) (claims : List (String × Json))
    (name : String) : Reading α :=
  match claims.lookup name with
  | none => .absent
  | some v =>
    match read? v with
    | some x => .value x
    | none => .unreadable

/-- An array or an object. -/
def isCompound : Json → Bool
  | .array _ | .object _ => true
  | _ => false

/-- An array or an object that holds something. -/
def isFilled : Json → Bool
  | .array items => !items.isEmpty
  | .object members => !members.isEmpty
  | _ => false

/-- Claims that are compared stand once, the subject is no compound, and a time holds nothing. -/
def isWellFormed (members : List (String × Json)) : Bool :=
  Token.isOnce ["exp", "nbf", "sub", "iss", "aud"] members &&
    members.all fun (name, v) =>
      !(name == "sub" && isCompound v) && !((name == "exp" || name == "nbf") && isFilled v)

/-- The claims that are compared, out of all. -/
def standard (claims : List (String × Json)) : Standard where
  expiry := reading instant? claims "exp"
  start := reading instant? claims "nbf"
  issuers := reading names? claims "iss"
  audiences := reading names? claims "aud"

/-- The claims of a part. -/
def read (part : Bytes) : Except Token.Fault Claims := do
  match ← Token.value part with
  | .object members =>
    if isWellFormed members then
      return Json.lastMembers (Json.distinctMembers members)
    else throw .json
  | _ => throw .json

end Claims

/-! ## Issuing -/

/-- The text of a token with these claims, signed with a secret. -/
def Token.issue (secret : Bytes) (claims : Claims) : String :=
  let part (v : Json) : String := Base64.encode .urlSafe (Bytes.ofString v.compact)
  let header := Json.object [("typ", .string "JWT"), ("alg", .string Algorithm.hs256.name)]
  let signed := part header ++ "." ++ part (.object claims)
  let signature := Digest.sha256.hmac secret (Bytes.ofString signed)
  signed ++ "." ++ Base64.encode .urlSafe signature

end PollTunnel

import PollTunnel.Access.Token
import PollTunnel.Crypto.Edwards
import PollTunnel.Crypto.Rsa
import PollTunnel.Crypto.Weierstrass
import PollTunnel.Encoding.Pem

/-!
# Keys of token checks

* `Key.published?` — the key in a file, if it is of the wanted kind.
* `Key.verifier` — the check of signatures that a key and an algorithm make.
-/

set_option autoImplicit false

namespace PollTunnel

/-- Where the octets of a key come from. -/
inductive Key where
  /-- A secret that issuer and verifier share. -/
  | shared (secret : Bytes)
  /-- A public key from a file. -/
  | published (octets : Bytes)
  deriving DecidableEq, Repr

namespace Key

/-! ## Keys in files -/

/-- The names of the kinds of public keys. -/
def familyNames : List (List Nat × Algorithm.Family) :=
  [([1, 2, 840, 10045, 2, 1], .ellipticCurve), ([1, 2, 840, 113549, 1, 1, 1], .rsa),
    ([1, 3, 101, 112], .edwards)]

/-- The family that an element names. -/
def familyOf? : Der.Element → Option Algorithm.Family
  | .identifier arcs => familyNames.lookup arcs
  | _ => none

/-- The octets of an element that holds octets. -/
def octetsOf? : Der.Element → Option Bytes
  | .octets contents => some contents
  | _ => none

/-- The octets of a key of the family that a block holds.  A block either is a key of the family
`rsa` as a whole, or names a family and holds the key somewhere; the private half is of use for the
family `rsa` alone. -/
def inBlock? (family : Algorithm.Family) (block : Pem) : Option Bytes := do
  let elements ← Der.read? block.contents
  if ["RSA PUBLIC KEY", "RSA PRIVATE KEY"].contains block.label then
    guard (family = .rsa)
    return block.contents
  else
    guard (["PUBLIC KEY", "PRIVATE KEY", "CERTIFICATE"].contains block.label)
    let named ← Der.findSomeIn? familyOf? elements
    guard (named = family ∧ (family = .rsa ∨ block.label ≠ "PRIVATE KEY"))
    Der.findSomeIn? octetsOf? elements

/-- The key of a family in a file. -/
def published? (family : Algorithm.Family) (file : Bytes) : Option Key := do
  let block ← Pem.read? file
  let octets ← inBlock? family block
  return .published octets

/-- The octets of a key. -/
def octets : Key → Bytes
  | .shared secret => secret
  | .published octets => octets

/-! ## Checking signatures -/

/-- A check of signatures: the message comes first, the signature second. -/
abbrev Verifier := Bytes → Bytes → Bool

/-- The signature is the keyed digest. -/
def keyed (d : Digest) (key : Bytes) : Verifier := fun message signature =>
  signature == d.hmac key message

/-- The check with a key of the family `rsa`; a key that is none accepts nothing. -/
def rsa (check : Rsa → Verifier) (key : Bytes) : Verifier := fun message signature =>
  match Rsa.ofDer? key with
  | some key => check key message signature
  | none => false

/-- The check with a point of a curve. -/
def curve (c : Curve) (key : Bytes) : Except Token.Fault Verifier :=
  match Curve.Point.read? c key with
  | some point => .ok (c.verifies point)
  | none => .error .curveKey

/-- The check with a point of the twisted curve. -/
def edwards (key : Bytes) : Except Token.Fault Verifier :=
  match Edwards.Key.read? key with
  | some key => .ok (Edwards.verifies key)
  | none => .error .edwardsKey

/-- The check that a key makes for an algorithm. -/
def verifier (key : Key) : Algorithm → Except Token.Fault Verifier
  | .hs256 => .ok (keyed .sha256 key.octets)
  | .hs384 => .ok (keyed .sha384 key.octets)
  | .hs512 => .ok (keyed .sha512 key.octets)
  | .rs256 => .ok (rsa (Rsa.verifiesFixed · .sha256) key.octets)
  | .rs384 => .ok (rsa (Rsa.verifiesFixed · .sha384) key.octets)
  | .rs512 => .ok (rsa (Rsa.verifiesFixed · .sha512) key.octets)
  | .ps256 => .ok (rsa (Rsa.verifiesSalted · .sha256) key.octets)
  | .ps384 => .ok (rsa (Rsa.verifiesSalted · .sha384) key.octets)
  | .ps512 => .ok (rsa (Rsa.verifiesSalted · .sha512) key.octets)
  | .es256 => curve .p256 key.octets
  | .es384 => curve .p384 key.octets
  | .edDsa => edwards key.octets

end Key
end PollTunnel

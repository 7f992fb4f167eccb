import PollTunnel.Bytes

/-!
# Percent encoding

An octet that a part of a URL may not show is written as `%` and two uppercase hexadecimal digits.
Each part has its own set of characters that are encoded; `%` itself is in none of them, so what
was encoded before stays as it is.
-/

set_option autoImplicit false

namespace PollTunnel
namespace Percent

/-- Controls and everything beyond ASCII. -/
def isControl (c : Char) : Bool := c.toNat < 0x20 || 0x7E < c.toNat

/-- Encoded in paths. -/
def inPath (c : Char) : Bool := isControl c || " \"#<>?`\x7b\x7d".toList.contains c

/-- Encoded in queries. -/
def inQuery (c : Char) : Bool := isControl c || " \"#<>'".toList.contains c

/-- Encoded in user names and passwords. -/
def inCredentials (c : Char) : Bool := inPath c || "/:;=@[\\]^|".toList.contains c

/-- An octet as a percent sign and two digits. -/
def octet (b : UInt8) : List Char := '%' :: (Bytes.hexPair b).map Char.toUpper

/-- A character as it stands in a part that encodes `set`. -/
def encodeChar (set : Char → Bool) (c : Char) : List Char :=
  if set c then (String.utf8EncodeChar c).flatMap octet else [c]

/-- A text with the characters of `set` encoded. -/
def encode (set : Char → Bool) (cs : List Char) : List Char := cs.flatMap (encodeChar set)

/-- The octets of a text in which well-formed escapes are decoded. -/
def decode : List Char → Bytes
  | '%' :: a :: b :: rest =>
    match Bytes.hexValue? a, Bytes.hexValue? b with
    | some h, some l => (16 * h + l).toUInt8 :: decode rest
    | _, _ => '%'.toNat.toUInt8 :: decode (a :: b :: rest)
  | c :: rest => String.utf8EncodeChar c ++ decode rest
  | [] => []

end Percent
end PollTunnel

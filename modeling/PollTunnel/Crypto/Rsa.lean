import PollTunnel.Crypto.Power
import PollTunnel.Crypto.Sha2
import PollTunnel.Encoding.Der

/-!
# RSA signatures

A signature is a number below the modulus; raised to the public exponent it gives back an encoded
digest of the message.

* `Rsa.verifiesFixed` — the digest stands behind fixed filling.
* `Rsa.verifiesSalted` — the digest is hidden under a mask together with a random salt as long as
  the digest.
-/

set_option autoImplicit false

namespace PollTunnel

/-- A public key. -/
structure Rsa where
  modulus : Nat
  exponent : Nat
  deriving DecidableEq, Repr

namespace Rsa

/-- The bits of a number. -/
def bitLength (n : Nat) : Nat := if n = 0 then 0 else n.log2 + 1

/-- The longest modulus that is worked with. -/
def maxModulusBits : Nat := 4096

/-- The largest exponent that is worked with. -/
def maxExponent : Nat := Nat.pow 2 33 - 1

/-- The key is one that is worked with. -/
def isUsable (key : Rsa) : Bool :=
  bitLength key.modulus ≤ maxModulusBits && key.exponent < key.modulus && key.modulus % 2 == 1 &&
    key.exponent % 2 == 1 && 2 ≤ key.exponent && key.exponent ≤ maxExponent

/-- The key that a sequence of modulus and exponent holds. -/
def ofDer? (bytes : Bytes) : Option Rsa := do
  let (modulus, exponent) ← Der.pair? bytes
  let key : Rsa := ⟨modulus, exponent⟩
  if key.isUsable then some key else none

/-- The octets of the modulus, and so of every signature. -/
def size (key : Rsa) : Nat := (bitLength key.modulus + 7) / 8

/-- The number that a signature gives back. -/
def opened? (key : Rsa) (signature : Bytes) : Option Nat :=
  let s := Bytes.toNat signature
  if signature.length = key.size ∧ s < key.modulus then
    some (powMod s key.exponent key.modulus)
  else none

/-! ## Fixed filling -/

/-- What names a digest in front of it. -/
def digestMark : Digest → Bytes
  | .sha256 => mark 0x31 0x01 0x20
  | .sha384 => mark 0x41 0x02 0x30
  | .sha512 => mark 0x51 0x03 0x40
where
  mark (whole member size : UInt8) : Bytes :=
    [0x30, whole, 0x30, 0x0D, 0x06, 0x09, 0x60, 0x86, 0x48, 0x01, 0x65, 0x03, 0x04, 0x02, member,
      0x05, 0x00, 0x04, size]

/-- The message encoded with fixed filling. -/
def fixedForm (d : Digest) (size : Nat) (message : Bytes) : Bytes :=
  let tail := digestMark d ++ d.hash message
  [0x00, 0x01] ++ List.replicate (size - tail.length - 3) 0xFF ++ 0x00 :: tail

/-- The signature gives back the message encoded with fixed filling. -/
def verifiesFixed (key : Rsa) (d : Digest) (message signature : Bytes) : Bool :=
  match key.opened? signature with
  | some m =>
    (digestMark d).length + d.size + 11 ≤ key.size &&
      Bytes.ofNat key.size m == fixedForm d key.size message
  | none => false

/-! ## Salted digests -/

/-- The digest's size stretched to a mask of any length. -/
def stretch (d : Digest) (seed : Bytes) (length : Nat) : Bytes :=
  let count := (length + d.size - 1) / d.size
  ((List.range count).flatMap fun i => d.hash (seed ++ Bytes.ofNat 4 i)).take length

/-- The first octet with its highest `count` bits cleared. -/
def clearHigh (count : Nat) : Bytes → Bytes
  | [] => []
  | b :: rest => (b.toNat % Nat.pow 2 (8 - count)).toUInt8 :: rest

/-- The encoded message is one that hides the digest of the message. -/
def isSaltedForm (d : Digest) (bits : Nat) (encoded message : Bytes) : Bool :=
  let size := encoded.length
  let idle := 8 * size - bits
  let masked := encoded.take (size - d.size - 1)
  let digest := (encoded.drop (size - d.size - 1)).take d.size
  let mask := stretch d digest masked.length
  let block := clearHigh idle (List.zipWith (· ^^^ ·) masked mask)
  let filling := size - 2 * d.size - 2
  let salt := block.drop (filling + 1)
  2 * d.size + 2 ≤ size && encoded.getLast? == some 0xBC && clearHigh idle masked == masked &&
    block.take (filling + 1) == List.replicate filling 0 ++ [0x01] &&
    d.hash (List.replicate 8 0 ++ d.hash message ++ salt) == digest

/-- The signature gives back a salted form of the message. -/
def verifiesSalted (key : Rsa) (d : Digest) (message signature : Bytes) : Bool :=
  let bits := bitLength key.modulus - 1
  match key.opened? signature with
  | some m =>
    m < Nat.pow 2 (8 * ((bits + 7) / 8)) && isSaltedForm d bits (Bytes.ofNat ((bits + 7) / 8) m) message
  | none => false

end Rsa
end PollTunnel

import PollTunnel.Crypto.Sha2

/-!
# Keyed digests

`Digest.hmac` authenticates a message with a secret: the digest of the message behind one form of
the key, digested again behind another.
-/

set_option autoImplicit false

namespace PollTunnel
namespace Digest

/-- A key of one block: a longer one is digested, a shorter one filled up with zeros. -/
def blockKey (d : Digest) (key : Bytes) : Bytes :=
  let short := if d.blockSize < key.length then d.hash key else key
  short ++ List.replicate (d.blockSize - short.length) 0

/-- Every octet of a key changed by a mask. -/
def mask (key : Bytes) (m : UInt8) : Bytes := key.map (· ^^^ m)

/-- The keyed digest of a message. -/
def hmac (d : Digest) (key message : Bytes) : Bytes :=
  let k := d.blockKey key
  d.hash (mask k 0x5C ++ d.hash (mask k 0x36 ++ message))

end Digest
end PollTunnel

import PollTunnel.Bytes

/-!
# The SHA-2 digests

`Digest` names three members of the family; `Digest.hash` computes them.

The members share one construction (`Sha2.Design`) over words of 32 or 64 bits: their constants are
the first bits of the fractional parts of roots of the first primes (`Sha2.rootBits`), and they
differ in the distances of six rotations and shifts.
-/

set_option autoImplicit false

namespace PollTunnel
namespace Sha2

/-! ## Constants -/

/-- The digits of the `k`-th root of `n`, from the highest of `count` bits down, after those in
`acc`: the largest number with these leading bits whose `k`-th power is at most `n`. -/
def rootBits (k n : Nat) : Nat → Nat → Nat
  | 0, acc => acc
  | count + 1, acc =>
    let next := acc + Nat.pow 2 count
    rootBits k n count (if Nat.pow next k ≤ n then next else acc)

/-- The first `w` bits of the fractional part of the `k`-th root of a small number. -/
def rootFraction (w k n : Nat) : BitVec w :=
  BitVec.ofNat w (rootBits k (n * Nat.pow 2 (k * w)) (w + 8) 0)

/-- A number with no divisor but one and itself. -/
def isPrime (n : Nat) : Bool := 2 ≤ n && (List.range n).all fun d => d < 2 || n % d != 0

/-- The first eighty primes. -/
def primes : List Nat := (List.range 410).filter isPrime

/-- What tells the members of the family apart. -/
structure Design (w : Nat) where
  rounds : Nat
  /-- The rotations of the two large mixtures. -/
  large0 : Nat × Nat × Nat
  large1 : Nat × Nat × Nat
  /-- The rotations and the shift of the two small mixtures. -/
  small0 : Nat × Nat × Nat
  small1 : Nat × Nat × Nat
  /-- The constants of the rounds. -/
  constants : Array (BitVec w)
  /-- The state before the first block. -/
  start : List (BitVec w)

/-- The constants of a number of rounds. -/
def roundConstants (w rounds : Nat) : Array (BitVec w) :=
  ((primes.take rounds).map (rootFraction w 3)).toArray

/-- The design over words of 32 bits. -/
def design256 : Design 32 where
  rounds := 64
  large0 := (2, 13, 22)
  large1 := (6, 11, 25)
  small0 := (7, 18, 3)
  small1 := (17, 19, 10)
  constants := roundConstants 32 64
  start := (primes.take 8).map (rootFraction 32 2)

/-- The design over words of 64 bits. -/
def design512 : Design 64 where
  rounds := 80
  large0 := (28, 34, 39)
  large1 := (14, 18, 41)
  small0 := (1, 8, 7)
  small1 := (19, 61, 6)
  constants := roundConstants 64 80
  start := (primes.take 8).map (rootFraction 64 2)

/-- The same with a state of its own; the shorter digest is cut from it. -/
def design384 : Design 64 :=
  { design512 with start := ((primes.drop 8).take 8).map (rootFraction 64 2) }

/-! ## One block -/

variable {w : Nat}

/-- Three rotations, added without carry. -/
def mixLarge (d : Nat × Nat × Nat) (x : BitVec w) : BitVec w :=
  x.rotateRight d.1 ^^^ x.rotateRight d.2.1 ^^^ x.rotateRight d.2.2

/-- Two rotations and a shift, added without carry. -/
def mixSmall (d : Nat × Nat × Nat) (x : BitVec w) : BitVec w :=
  x.rotateRight d.1 ^^^ x.rotateRight d.2.1 ^^^ (x >>> d.2.2)

/-- The word that follows those of a schedule. -/
def nextWord (design : Design w) (words : Array (BitVec w)) : BitVec w :=
  let back (n : Nat) : BitVec w := words.getD (words.size - n) 0
  mixSmall design.small1 (back 2) + back 7 + mixSmall design.small0 (back 15) + back 16

/-- A block's words with the words that follow, up to one for each round. -/
def schedule (design : Design w) (block : List (BitVec w)) : Array (BitVec w) :=
  (List.range (design.rounds - 16)).foldl (fun words _ => words.push (nextWord design words))
    block.toArray

/-- One round on the eight words of the state. -/
def round (design : Design w) (words : Array (BitVec w)) (state : List (BitVec w)) (t : Nat) :
    List (BitVec w) :=
  match state with
  | [a, b, c, d, e, f, g, h] =>
    let choice := (e &&& f) ^^^ (~~~e &&& g)
    let majority := (a &&& b) ^^^ (a &&& c) ^^^ (b &&& c)
    let x := h + mixLarge design.large1 e + choice + design.constants.getD t 0 + words.getD t 0
    let y := mixLarge design.large0 a + majority
    [x + y, a, b, c, d + x, e, f, g]
  | _ => state

/-- The state after one more block. -/
def compress (design : Design w) (state block : List (BitVec w)) : List (BitVec w) :=
  let words := schedule design block
  List.zipWith (· + ·) state ((List.range design.rounds).foldl (round design words) state)

/-! ## Whole messages -/

/-- Consecutive pieces of a list, `size` items each. -/
def pieces {α : Type} (size : Nat) : Nat → List α → List (List α)
  | 0, _ => []
  | _, [] => []
  | count + 1, items => items.take size :: pieces size count (items.drop size)

/-- A message with a one bit, zeros, and its length in bits, a multiple of `block` octets long. -/
def pad (block : Nat) (message : Bytes) : Bytes :=
  let tail := block / 8
  let used := (message.length + 1 + tail) % block
  message ++ 0x80 :: List.replicate ((block - used) % block) 0 ++
    Bytes.ofNat tail (8 * message.length)

/-- The state after a whole message. -/
def run (design : Design w) (message : Bytes) : List (BitVec w) :=
  let octets := w / 8
  let padded := pad (16 * octets) message
  let words := (pieces octets padded.length padded).map fun p => BitVec.ofNat w (Bytes.toNat p)
  (pieces 16 words.length words).foldl (compress design) design.start

/-- The octets of a state. -/
def octets (state : List (BitVec w)) : Bytes := state.flatMap fun x => Bytes.ofNat (w / 8) x.toNat

end Sha2

/-- A digest of the family. -/
inductive Digest where
  | sha256
  | sha384
  | sha512
  deriving DecidableEq, Repr, Inhabited

namespace Digest

/-- The octets of a digest. -/
def size : Digest → Nat
  | .sha256 => 32
  | .sha384 => 48
  | .sha512 => 64

/-- The octets that are digested at a time. -/
def blockSize : Digest → Nat
  | .sha256 => 64
  | .sha384 | .sha512 => 128

/-- The digest of a message. -/
def hash (d : Digest) (message : Bytes) : Bytes :=
  match d with
  | .sha256 => Sha2.octets (Sha2.run Sha2.design256 message)
  | .sha384 => (Sha2.octets (Sha2.run Sha2.design384 message)).take 48
  | .sha512 => Sha2.octets (Sha2.run Sha2.design512 message)

end Digest
end PollTunnel

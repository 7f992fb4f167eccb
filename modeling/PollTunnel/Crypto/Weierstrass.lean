import PollTunnel.Crypto.Power
import PollTunnel.Crypto.Sha2

/-!
# Signatures with elliptic curves

A `Curve` is `y² = x³ - 3x + b` over the residues of a prime, with a point that generates a group of
prime order.

* `Curve.Point.read?` — the point that a key's octets stand for, if it lies on the curve.
* `Curve.verifies` — a signature is a pair of numbers `r`, `s`: the point
  `(h · G + r · Q) / s` has the first coordinate `r`, where `h` is the digest of the message, `G`
  the generator and `Q` the key.
-/

set_option autoImplicit false

namespace PollTunnel

/-- A curve with a generator. -/
structure Curve where
  /-- The prime of the field; three of four residues above a multiple of four. -/
  prime : Nat
  prime_pos : 0 < prime := by decide
  /-- The octets of a residue. -/
  size : Nat
  b : Nat
  generatorX : Nat
  generatorY : Nat
  /-- The order of the generator, a prime. -/
  order : Nat
  /-- The digest of messages. -/
  digest : Digest

namespace Curve

/-- The curve over 256 bits. -/
def p256 : Curve where
  prime := 0xffffffff00000001000000000000000000000000ffffffffffffffffffffffff
  size := 32
  b := 0x5ac635d8aa3a93e7b3ebbd55769886bc651d06b0cc53b0f63bce3c3e27d2604b
  generatorX := 0x6b17d1f2e12c4247f8bce6e563a440f277037d812deb33a0f4a13945d898c296
  generatorY := 0x4fe342e2fe1a7f9b8ee7eb4a7c0f9e162bce33576b315ececbb6406837bf51f5
  order := 0xffffffff00000000ffffffffffffffffbce6faada7179e84f3b9cac2fc632551
  digest := .sha256

/-- The curve over 384 bits. -/
def p384 : Curve where
  prime := 0xfffffffffffffffffffffffffffffffffffffffffffffffffffffffffffffffeffffffff0000000000000000ffffffff
  size := 48
  b := 0xb3312fa7e23ee7e4988e056be3f82d19181d9c6efe8141120314088f5013875ac656398d8a2ed19d2a85c8edd3ec2aef
  generatorX := 0xaa87ca22be8b05378eb1c71ef320ad746e1d3b628ba79b9859f741e082542a385502f25dbf55296c3a545e3872760ab7
  generatorY := 0x3617de4a96262c6f5d9e98bf9292dc29f8f41dbd289a147ce9da3113b5f0b8c00a60b1ce1d7e819d7a431d7c90ea0e5f
  order := 0xffffffffffffffffffffffffffffffffffffffffffffffffc7634d81f4372ddf581a0db248b0a77aecec196accc52973
  digest := .sha384

variable (c : Curve)

/-- A residue. -/
abbrev Element := Fin c.prime

/-- The residue of a number. -/
def element (n : Nat) : c.Element := ⟨n % c.prime, Nat.mod_lt n c.prime_pos⟩

/-- Numerals stand for residues. -/
instance (n : Nat) : OfNat c.Element n := ⟨c.element n⟩

/-- A residue whose product with another is one, if there is such a residue. -/
def inverse (x : c.Element) : c.Element := residuePower x (c.prime - 2)

/-! ## Points -/

/-- A point in coordinates that have to be divided by `z`; where `z` is zero, the point at
infinity. -/
structure Point where
  x : c.Element
  y : c.Element
  z : c.Element
  deriving DecidableEq

variable {c}

/-- The neutral point. -/
def Point.infinity : Point c := ⟨0, 1, 0⟩

/-- The point with itself added. -/
def Point.double (p : Point c) : Point c :=
  let w := 3 * (p.x * p.x - p.z * p.z)
  let s := p.y * p.z
  let r := p.y * s
  let xr := p.x * r
  let h := w * w - 8 * xr
  ⟨2 * h * s, w * (4 * xr - h) - 8 * r * r, 8 * s * s * s⟩

/-- The sum of two points. -/
def Point.add (p q : Point c) : Point c :=
  if p.z = 0 then q
  else if q.z = 0 then p
  else
    let u := q.y * p.z - p.y * q.z
    let v := q.x * p.z - p.x * q.z
    if v = 0 then if u = 0 then p.double else infinity
    else
      let vv := v * v
      let vvv := v * vv
      let t := vv * p.x * q.z
      let a := u * u * p.z * q.z - vvv - 2 * t
      ⟨v * a, u * (t - a) - vvv * p.y * q.z, vvv * p.z * q.z⟩

/-- A multiple of a point. -/
def Point.times (n : Nat) (p : Point c) : Point c := repeated Point.add .infinity n p

variable (c)

/-- The generator. -/
def generator : Point c := ⟨c.element c.generatorX, c.element c.generatorY, 1⟩

/-- The square of the second coordinate that belongs to a first coordinate. -/
def square (x : c.Element) : c.Element := x * x * x - 3 * x + c.element c.b

/-- A square root, if there is one. -/
def squareRoot? (x : c.Element) : Option c.Element :=
  let y := residuePower x ((c.prime + 1) / 4)
  if y * y = x then some y else none

/-- The residue that octets stand for in the shortest way. -/
def coordinate? (octets : Bytes) : Option c.Element :=
  let n := Bytes.toNat octets
  if n < c.prime then some (c.element n) else none

/-- The point that the octets of a key stand for: both coordinates, or the first with the parity of
the second. -/
def Point.read? : Bytes → Option (Point c)
  | [] => none
  | form :: octets =>
    if form = 4 ∧ octets.length = 2 * c.size then do
      let x ← c.coordinate? (octets.take c.size)
      let y ← c.coordinate? (octets.drop c.size)
      if y * y = c.square x then some ⟨x, y, 1⟩ else none
    else if (form = 2 ∨ form = 3) ∧ octets.length = c.size then do
      let x ← c.coordinate? octets
      let y ← c.squareRoot? (c.square x)
      some ⟨x, if y.val % 2 = form.toNat % 2 then y else 0 - y, 1⟩
    else none

/-! ## Signatures -/

/-- The number that has the product one with a number that is prime to the order. -/
def orderInverse (s : Nat) : Nat := powMod s (c.order - 2) c.order

/-- The signature is one of the message under the key. -/
def verifies (key : Point c) (message signature : Bytes) : Bool :=
  let r := Bytes.toNat (signature.take c.size)
  let s := Bytes.toNat (signature.drop c.size)
  if signature.length = 2 * c.size ∧ 0 < r ∧ r < c.order ∧ 0 < s ∧ s < c.order then
    let h := Bytes.toNat (c.digest.hash message)
    let w := c.orderInverse s
    let p := Point.add (.times (h * w % c.order) c.generator) (.times (r * w % c.order) key)
    decide (p.z ≠ 0) && (p.x * c.inverse p.z).val % c.order == r
  else false

end Curve
end PollTunnel

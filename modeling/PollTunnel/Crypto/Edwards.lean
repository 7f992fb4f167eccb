import PollTunnel.Crypto.Power
import PollTunnel.Crypto.Sha2

/-!
# Signatures with a twisted Edwards curve

The curve is `y² - x² = 1 + d x² y²` over the residues of `2 ^ 255 - 19`.  One formula adds any two
of its points.

* `Edwards.Point.read?` — the point of 32 octets: the second coordinate and the sign of the first.
* `Edwards.verifies` — a signature is a point `R` and a number `s` with `s · B = R + h · A`, where
  `h` digests the point, the key and the message.
-/

set_option autoImplicit false

namespace PollTunnel
namespace Edwards

/-- The prime of the field. -/
def prime : Nat := Nat.pow 2 255 - 19

/-- The order of the base point. -/
def order : Nat := Nat.pow 2 252 + 27742317777372353535851937790883648493

/-- A residue. -/
abbrev Element := Fin prime

/-- The residue of a number. -/
def element (n : Nat) : Element := ⟨n % prime, Nat.mod_lt n (by decide)⟩

/-- Numerals stand for residues. -/
instance (n : Nat) : OfNat Element n := ⟨element n⟩

/-- The residue that has the product one with `x`, unless `x` is zero. -/
def inverse (x : Element) : Element := residuePower x (prime - 2)

/-- The coefficient of the curve. -/
def d : Element := (0 - element 121665) * inverse (element 121666)

/-- A square root of minus one. -/
def rootOfMinusOne : Element := residuePower 2 ((prime - 1) / 4)

/-- A point in coordinates that have to be divided by `z`. -/
structure Point where
  x : Element
  y : Element
  z : Element

namespace Point

/-- The neutral point. -/
def neutral : Point := ⟨0, 1, 1⟩

/-- The sum of two points. -/
def add (p q : Point) : Point :=
  let a := p.z * q.z
  let b := a * a
  let xx := p.x * q.x
  let yy := p.y * q.y
  let e := d * xx * yy
  let f := b - e
  let g := b + e
  ⟨a * f * ((p.x + p.y) * (q.x + q.y) - xx - yy), a * g * (yy + xx), f * g⟩

/-- A multiple of a point. -/
def times (n : Nat) (p : Point) : Point := repeated add neutral n p

/-- The point with the opposite first coordinate. -/
def opposite (p : Point) : Point := ⟨0 - p.x, p.y, p.z⟩

/-- The square root of a quotient, the even one, if there is one. -/
def rootOfQuotient? (u v : Element) : Option Element :=
  let q := u * inverse v
  let r := residuePower q ((prime + 3) / 8)
  let r := if r * r = q then r else r * rootOfMinusOne
  if r * r = q then some (if r.val % 2 = 0 then r else 0 - r) else none

/-- The point of 32 octets, least significant first; the highest bit is the parity of the first
coordinate. -/
def read? (octets : Bytes) : Option Point :=
  if octets.length = 32 then
    let n := Bytes.toNat octets.reverse
    let y := element (n % Nat.pow 2 255)
    (rootOfQuotient? (y * y - 1) (d * y * y + 1)).map fun x =>
      ⟨if n < Nat.pow 2 255 then x else 0 - x, y, 1⟩
  else none

/-- The octets of a point. -/
def octets (p : Point) : Bytes :=
  let i := inverse p.z
  let parity := (p.x * i).val % 2
  (Bytes.ofNat 32 ((p.y * i).val + parity * Nat.pow 2 255)).reverse

/-- The base point: its second coordinate is four fifths. -/
def base : Point :=
  let y := element 4 * inverse (element 5)
  ⟨((rootOfQuotient? (y * y - 1) (d * y * y + 1)).getD 0), y, 1⟩

end Point

/-- A key: the octets it was read from, and its point. -/
structure Key where
  octets : Bytes
  point : Point

/-- The key of 32 octets. -/
def Key.read? (octets : Bytes) : Option Key := (Point.read? octets).map fun p => ⟨octets, p⟩

/-- The signature is one of the message under the key. -/
def verifies (key : Key) (message signature : Bytes) : Bool :=
  let r := signature.take 32
  let s := Bytes.toNat (signature.drop 32).reverse
  if signature.length = 64 ∧ s < order then
    let h := Bytes.toNat (Digest.sha512.hash (r ++ key.octets ++ message)).reverse % order
    (Point.add (.times s .base) (.times h key.point.opposite)).octets == r
  else false

end Edwards
end PollTunnel
